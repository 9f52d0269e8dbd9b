import Metasearch.Html.Document

/-!
# Groups of elements

Where an element may stand and what ends it depends on the group that it is in. An element is in a
group of names only if its name is from the vocabulary of text documents.
-/

namespace Metasearch.Html.Groups

/-- Elements that other elements may not be pulled out of. -/
def special : List String :=
  ["address", "applet", "area", "article", "aside", "base", "basefont", "bgsound", "blockquote",
    "body", "br", "button", "caption", "center", "col", "colgroup", "dd", "details", "dir", "div",
    "dl", "dt", "embed", "fieldset", "figcaption", "figure", "footer", "form", "frame", "frameset",
    "h1", "h2", "h3", "h4", "h5", "h6", "head", "header", "hgroup", "hr", "html", "iframe", "img",
    "input", "isindex", "li", "link", "listing", "main", "marquee", "menu", "meta", "nav",
    "noembed", "noframes", "noscript", "object", "ol", "p", "param", "plaintext", "pre", "script",
    "search", "section", "select", "source", "style", "summary", "table", "tbody", "td",
    "template", "textarea", "tfoot", "th", "thead", "title", "tr", "track", "ul", "wbr", "xmp"]

/-- Elements that an end tag is not looked for beyond. -/
def scope : List String :=
  ["applet", "caption", "html", "table", "td", "th", "marquee", "object", "template"]

/-- Elements whose end may be left out. -/
def implied : List String :=
  ["dd", "dt", "li", "option", "optgroup", "p", "rb", "rp", "rt", "rtc"]

/-- Elements that are ended with a template. -/
def impliedByTemplate : List String :=
  implied ++ ["caption", "colgroup", "tbody", "td", "tfoot", "th", "thead", "tr"]

/-- Headings. -/
def headings : List String := ["h1", "h2", "h3", "h4", "h5", "h6"]

/-- Blocks that end a paragraph. -/
def blocks : List String :=
  ["address", "article", "aside", "blockquote", "center", "details", "dialog", "dir", "div", "dl",
    "fieldset", "figcaption", "figure", "footer", "header", "hgroup", "main", "menu", "nav", "ol",
    "p", "search", "section", "summary", "ul"]

/-- Blocks whose end tag ends all that is in them. -/
def closedBlocks : List String :=
  ["button", "listing", "pre"] ++ blocks.erase "p"

/-- Elements that only change how text looks. -/
def formatting : List String :=
  ["a", "b", "big", "code", "em", "font", "i", "nobr", "s", "small", "strike", "strong", "tt", "u"]

/-- Elements that change of looks does not reach into. -/
def embedded : List String := ["applet", "marquee", "object"]

/-- Empty elements that stand in a line. -/
def emptyInline : List String := ["area", "br", "embed", "img", "keygen", "wbr", "input"]

/-- Empty elements that belong to what they stand in. -/
def emptyPart : List String := ["param", "source", "track"]

/-- Elements about the document, which stand in its head. -/
def headOnly : List String :=
  ["base", "basefont", "bgsound", "link", "meta", "noframes", "script", "style", "template",
    "title"]

/-- Elements that mean nothing outside a table. -/
def tableOnly : List String :=
  ["caption", "col", "colgroup", "frame", "head", "tbody", "td", "tfoot", "th", "thead", "tr"]

/-- The sections of a table. -/
def sections : List String := ["tbody", "tfoot", "thead"]

/-- The cells of a table. -/
def cells : List String := ["td", "th"]

/-- The parts of a table in which no text stands. -/
def tableFrame : List String := ["table", "tbody", "tfoot", "thead", "tr"]

/-- Elements that a drawing or formula ends at. -/
def breakout : List String :=
  ["b", "big", "blockquote", "body", "br", "center", "code", "dd", "div", "dl", "dt", "em",
    "embed", "h1", "h2", "h3", "h4", "h5", "h6", "head", "hr", "i", "img", "li", "listing", "menu",
    "meta", "nobr", "ol", "p", "pre", "ruby", "s", "small", "span", "strong", "strike", "sub",
    "sup", "table", "tt", "u", "ul", "var"]

end Metasearch.Html.Groups
