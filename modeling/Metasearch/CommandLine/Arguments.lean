import Metasearch.CommandLine.Report
import Metasearch.Number.Decimal
import Metasearch.Query

/-!
# Arguments of the command line

A command line is a sequence of options and words. Options have a long name or a letter, and some
take a value, which follows in the same argument or in the next one. The first word is the command;
what follows is read by the command's own options.

## Main definitions

* `OptionForm`, `Item`: options that may be given, and the pieces of a command line.
* `scan`: the pieces of arguments.
* `Command`, `Invocation`: what is to be done.
* `Invocation.parse`: the invocation that arguments describe, or why there is none.
-/

namespace Metasearch.CommandLine

open Metasearch.Text

/-! ### Options and words -/

/-- An option that may be given. -/
structure OptionForm where
  /-- The long name. -/
  name : String
  /-- The letter. -/
  letter : Option Char
  /-- Whether it takes a value. -/
  takesValue : Bool

/-- A piece of the command line. -/
inductive Item where
  /-- An option without a value. -/
  | flag (name : String)
  /-- An option with its value. -/
  | option (name : String) (value : String)
  /-- A word. -/
  | word (text : String)
  /-- What cannot be understood. -/
  | malformed

/-- Holds of arguments that are options or mark the end of the options. -/
def isOption (argument : List Char) : Bool :=
  match argument with
  | '-' :: _ :: _ => true
  | _ => false

/-- A text cut at its first equals sign. -/
def cutAtEquals (s : List Char) : List Char × Option (List Char) :=
  (beforeFirst (· == '=') s, afterFirst (· == '=') s)

/-- The value of an option whose letter stands before the rest of an argument. -/
def attached (rest : List Char) : String :=
  match rest with
  | '=' :: r => String.ofList r
  | r => String.ofList r

/-- The options that letters name, and the name of the last one if its value is still missing. -/
def readLetters (forms : List OptionForm) : List Char → List Item × Option String
  | [] => ([], none)
  | c :: r =>
    match forms.find? fun f => f.letter == some c with
    | none => ([.malformed], none)
    | some f =>
      if f.takesValue then
        if r.isEmpty then ([], some f.name) else ([.option f.name (attached r)], none)
      else
        let (items, pending) := readLetters forms r
        (.flag f.name :: items, pending)

/-- The options of one argument, and the name of the last one if its value is still missing. -/
def readOption (forms : List OptionForm) (argument : List Char) : List Item × Option String :=
  match argument with
  | '-' :: '-' :: long =>
    let (name, value) := cutAtEquals long
    match forms.find? fun f => f.name.toList == name, value with
    | none, _ => ([.malformed], none)
    | some f, some v =>
      (if f.takesValue then [.option f.name (String.ofList v)] else [.malformed], none)
    | some f, none => if f.takesValue then ([], some f.name) else ([.flag f.name], none)
  | _ => readLetters forms argument.tail

/-- The pieces of a command line; if it `stops` at the first word, also the arguments after it. -/
def scan (forms : List OptionForm) (stops : Bool) : List String → List Item × List String
  | [] => ([], [])
  | a :: r =>
    if a == "--" then (if stops then [.malformed] else r.map .word, [])
    else if !isOption a.toList then
      if stops then ([.word a], r)
      else
        let (items, rest) := scan forms stops r
        (.word a :: items, rest)
    else
      match readOption forms a.toList with
      | (found, none) =>
        let (items, rest) := scan forms stops r
        (found ++ items, rest)
      | (found, some name) =>
        match r with
        | [] => (found ++ [.malformed], [])
        | v :: r =>
          if isOption v.toList then (found ++ [.malformed], [])
          else
            let (items, rest) := scan forms stops r
            (found ++ .option name v :: items, rest)

/-! ### Invocations -/

/-- What is to be done. -/
inductive Command where
  /-- Search, and write at most so many results. -/
  | search (query : Query) (limit : Nat) (format : Format)
  /-- Collect all that sources of some categories deliver. -/
  | collect (categories : List Category) (format : Format)
  /-- List the sources. -/
  | sources

/-- What is to be done, and by what settings. -/
structure Invocation where
  /-- The settings file. -/
  config : Option String
  /-- What is to be done. -/
  command : Command

/-- Why nothing is done. -/
inductive Stop where
  /-- Only help was asked for. -/
  | help
  /-- Only the version was asked for. -/
  | version
  /-- The arguments cannot be understood. -/
  | usage

/-- Options that each command has. -/
def commonForms : List OptionForm :=
  [⟨"config", none, true⟩, ⟨"verbose", some 'v', false⟩, ⟨"help", some 'h', false⟩]

/-- Options before the command. -/
def topForms : List OptionForm := ⟨"version", some 'V', false⟩ :: commonForms

/-- Options of a collection. -/
def collectForms : List OptionForm :=
  ⟨"categories", some 'c', true⟩ :: ⟨"format", some 'f', true⟩ :: commonForms

/-- Options of a search. -/
def searchForms : List OptionForm :=
  [⟨"sources", some 's', true⟩, ⟨"page", none, true⟩, ⟨"language", none, true⟩,
    ⟨"safesearch", none, true⟩, ⟨"time-range", none, true⟩, ⟨"limit", some 'l', true⟩] ++
    collectForms

/-- All that options and words can tell; what is not told is missing. -/
structure Told where
  /-- The settings file. -/
  config : Option String := none
  /-- Whether more is to be logged. -/
  verbose : Bool := false
  /-- The categories. -/
  categories : Option (List Category) := none
  /-- The format. -/
  format : Option Format := none
  /-- The ids of sources. -/
  sources : Option (List String) := none
  /-- The page. -/
  page : Option Nat := none
  /-- The language. -/
  language : Option String := none
  /-- The level of safe search. -/
  safeSearch : Option SafeSearch := none
  /-- The time range. -/
  timeRange : Option TimeRange := none
  /-- The number of results. -/
  limit : Option Nat := none
  /-- The words. -/
  words : List String := []

/-- What lies between commas. -/
def parts (value : String) : List String :=
  (splitWhere (· == ',') value.toList).map String.ofList

/-- A number without a sign, or with a plus, below a bound. -/
def readCount? (bound : Nat) (s : List Char) : Option Nat :=
  let digits := match s with
    | '+' :: r => r
    | s => s
  if digits.isEmpty || !digits.all Char.isDigit then none
  else
    let n := Number.value digits
    if n < bound then some n else none

/-- The number of a page. Zero may have a minus. -/
def readPage? (s : List Char) : Option Nat :=
  match s with
  | '-' :: r => if !r.isEmpty && r.all (· == '0') then some 0 else none
  | s => readCount? Number.count32 s

/-- A value that is told for the first time. -/
def once {α : Type} (old new : Option α) : Except Stop (Option α) :=
  match old, new with
  | none, some a => .ok (some a)
  | _, _ => .error .usage

namespace Told

/-- What is told with one more piece; at most so many words are. -/
def next (most : Nat) (t : Told) (i : Item) : Except Stop Told := do
  match i with
  | .malformed => throw .usage
  | .word w =>
    if t.words.length < most then return { t with words := t.words ++ [w] } else throw .usage
  | .flag "help" => throw .help
  | .flag "version" => throw .version
  | .flag _ => if t.verbose then throw .usage else return { t with verbose := true }
  | .option "config" v =>
    return { t with config := ← once t.config (if v.isEmpty then none else some v) }
  | .option "categories" v =>
    return { t with categories := some (t.categories.getD [] ++ (parts v).map Category.ofLoose) }
  | .option "sources" v => return { t with sources := some (t.sources.getD [] ++ parts v) }
  | .option "format" v => return { t with format := ← once t.format (Format.named? v) }
  | .option "page" v => return { t with page := ← once t.page (readPage? v.toList) }
  | .option "limit" v =>
    return { t with limit := ← once t.limit (readCount? Number.count64 v.toList) }
  | .option "language" v => return { t with language := ← once t.language (some v) }
  | .option "safesearch" v =>
    return { t with safeSearch := ← once t.safeSearch (SafeSearch.ofLoose? v) }
  | .option _ v => return { t with timeRange := ← once t.timeRange (TimeRange.ofLoose? v) }

/-- What the pieces of a command line tell. -/
def ofItems (most : Nat) (items : List Item) : Except Stop Told :=
  items.foldlM (next most) {}

/-- The query that is told. -/
def query (t : Told) (terms : String) : Query :=
  { (Query.ofTerms terms).withCategories (t.categories.getD [.general]) with
    page := t.page.getD 1
    safeSearch := t.safeSearch.getD .off
    language := t.language
    timeRange := t.timeRange
    sources := t.sources.getD [] }

end Told

/-- The names of the commands. -/
def commandNames : List String := ["search", "collect", "sources", "help"]

/-- Help on at most one command. -/
def askHelp : List String → Stop
  | [] => .help
  | [name] => if commandNames.contains name then .help else .usage
  | _ => .usage

/-- The invocation of a command with its own arguments; `config` was told before the command. -/
def parseCommand (config : Option String) (name : String) (arguments : List String) :
    Except Stop Invocation := do
  match name with
  | "search" =>
    let t ← Told.ofItems 1 (scan searchForms false arguments).1
    match t.words with
    | [terms] =>
      let command := .search (t.query terms) (t.limit.getD 10) (t.format.getD .text)
      return ⟨t.config.or config, command⟩
    | _ => throw .usage
  | "collect" =>
    let t ← Told.ofItems 0 (scan collectForms false arguments).1
    return ⟨t.config.or config, .collect (t.categories.getD [.feeds]) (t.format.getD .text)⟩
  | "sources" =>
    let t ← Told.ofItems 0 (scan commonForms false arguments).1
    return ⟨t.config.or config, .sources⟩
  | "help" => throw (askHelp arguments)
  | _ => throw .usage

/-- The invocation that arguments describe, or why there is none. -/
def Invocation.parse (arguments : List String) : Except Stop Invocation := do
  let (items, rest) := scan topForms true arguments
  let t ← Told.ofItems 1 items
  match t.words with
  | [name] => parseCommand t.config name rest
  | _ => throw .usage

end Metasearch.CommandLine
