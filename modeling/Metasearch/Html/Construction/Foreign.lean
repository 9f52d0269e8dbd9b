import Metasearch.Html.Construction.Formatting
import Metasearch.Text.Space

/-!
# Drawings and formulas

Elements of drawings and formulas keep names in mixed case, which a tag cannot tell. Their proper
names are restored, and attributes such as `xlink:href` lose their prefix.

## Main definitions

* `Tag.forDrawing`, `Tag.forFormula`, `Tag.qualifying`: proper names.
* `Builder.enterForeign`: a drawing or formula begins.
-/

namespace Metasearch.Html

/-- The elements of drawings with capitals in their names. -/
def drawingElements : List String :=
  ["altGlyph", "altGlyphDef", "altGlyphItem", "animateColor", "animateMotion", "animateTransform",
    "clipPath", "feBlend", "feColorMatrix", "feComponentTransfer", "feComposite",
    "feConvolveMatrix", "feDiffuseLighting", "feDisplacementMap", "feDistantLight", "feDropShadow",
    "feFlood", "feFuncA", "feFuncB", "feFuncG", "feFuncR", "feGaussianBlur", "feImage", "feMerge",
    "feMergeNode", "feMorphology", "feOffset", "fePointLight", "feSpecularLighting", "feSpotLight",
    "feTile", "feTurbulence", "foreignObject", "glyphRef", "linearGradient", "radialGradient",
    "textPath"]

/-- The attributes of drawings with capitals in their names. -/
def drawingAttributes : List String :=
  ["attributeName", "attributeType", "baseFrequency", "baseProfile", "calcMode", "clipPathUnits",
    "diffuseConstant", "edgeMode", "filterUnits", "glyphRef", "gradientTransform", "gradientUnits",
    "kernelMatrix", "kernelUnitLength", "keyPoints", "keySplines", "keyTimes", "lengthAdjust",
    "limitingConeAngle", "markerHeight", "markerUnits", "markerWidth", "maskContentUnits",
    "maskUnits", "numOctaves", "pathLength", "patternContentUnits", "patternTransform",
    "patternUnits", "pointsAtX", "pointsAtY", "pointsAtZ", "preserveAlpha", "preserveAspectRatio",
    "primitiveUnits", "refX", "refY", "repeatCount", "repeatDur", "requiredExtensions",
    "requiredFeatures", "specularConstant", "specularExponent", "spreadMethod", "startOffset",
    "stdDeviation", "stitchTiles", "surfaceScale", "systemLanguage", "tableValues", "targetX",
    "targetY", "textLength", "viewBox", "viewTarget", "xChannelSelector", "yChannelSelector",
    "zoomAndPan"]

/-- The attributes of formulas with capitals in their names. -/
def formulaAttributes : List String := ["definitionURL"]

/-- Attributes with a prefix, and their names without it. -/
def qualifiedAttributes : List (String × String) :=
  [("xlink:actuate", "actuate"), ("xlink:arcrole", "arcrole"), ("xlink:href", "href"),
    ("xlink:role", "role"), ("xlink:show", "show"), ("xlink:title", "title"),
    ("xlink:type", "type"), ("xml:lang", "lang"), ("xml:space", "space"), ("xmlns", "xmlns"),
    ("xmlns:xlink", "xlink")]

/-- The name among some that differs from a name at most in its capitals. -/
def properName (names : List String) (name : String) : String :=
  (names.find? fun n => Text.lower n.toList == name.toList).getD name

namespace Tag

/-- The tag with proper names for its attributes. -/
def withAttributeNames (names : List String) (t : Tag) : Tag :=
  { t with attributes := t.attributes.map fun a => { a with name := properName names a.name } }

/-- The tag with the attributes marked that have a prefix. -/
def qualifying (t : Tag) : Tag :=
  { t with
    attributes := t.attributes.map fun a =>
      match qualifiedAttributes.find? fun q => q.1 == a.name with
      | some q => { a with name := q.2, qualified := true }
      | none => a }

/-- The tag as it counts in a formula. -/
def forFormula (t : Tag) : Tag := (t.withAttributeNames formulaAttributes).qualifying

/-- The tag that begins a drawing. -/
def forDrawing (t : Tag) : Tag := (t.withAttributeNames drawingAttributes).qualifying

/-- The tag as it counts in a drawing. -/
def inDrawing (t : Tag) : Tag := { t.forDrawing with name := properName drawingElements t.name }

end Tag

namespace Builder

/-- The builder with a new element of a vocabulary, which is open unless its tag ends with a
slash. -/
def addForeign (b : Builder) (vocabulary : Vocabulary) (t : Tag) : Builder :=
  let (b, o) := b.add ⟨vocabulary, t.name⟩ t.attributes
  if t.closed then b else b.push o

/-- The builder with a new drawing or formula. -/
def enterForeign (b : Builder) (vocabulary : Vocabulary) (t : Tag) : Builder :=
  b.restoreFormats.addForeign vocabulary
    (if vocabulary = .mathml then t.forFormula else t.forDrawing)

/-- The builder with a new element within a drawing or formula. -/
def addWithin (b : Builder) (vocabulary : Vocabulary) (t : Tag) : Builder :=
  b.addForeign vocabulary (if vocabulary = .mathml then t.forFormula else t.inDrawing)

/-- Holds of tags that a drawing or formula ends at. -/
def breaksOut (t : Tag) : Bool :=
  Groups.breakout.contains t.name ||
    (t.name == "font" &&
      t.attributes.any fun a => ["color", "face", "size"].contains a.name)

/-- The builder with all elements closed up to one that may hold a text document. -/
def leaveForeign (b : Builder) : Builder :=
  { b with
    stack := b.stack.dropWhile fun o =>
      !(o.name.vocabulary == .html || o.holdsFormulaText || o.holdsMarkup) }

/-- Holds of tokens that are read by the rules for drawings and formulas. -/
def isForeign (b : Builder) (token : Token) : Bool :=
  match b.stack with
  | [] => false
  | o :: _ =>
    if o.name.vocabulary == .html then false
    else
      match token with
      | .stop => false
      | .text _ | .null => !o.holdsFormulaText && !o.holdsMarkup
      | .start t =>
        !(o.holdsFormulaText && t.name != "mglyph" && t.name != "malignmark") &&
          !o.holdsMarkup && !(o.name == ⟨.mathml, "annotation-xml"⟩ && t.name == "svg")
      | _ => true

/-- Holds if the innermost open element is part of a drawing or formula. -/
def isInForeign (b : Builder) : Bool :=
  match b.stack with
  | o :: _ => o.name.vocabulary != .html
  | [] => false

/-- What an end tag in a drawing or formula does. -/
inductive ForeignEnd where
  /-- It means nothing. -/
  | nothing
  /-- It leaves some elements open. -/
  | leaves (stack : List Open)
  /-- It is read by the rules for text documents. -/
  | ordinary

/-- What the end tag of a name does among open elements of which the first is in a drawing or
formula; `first` tells whether it is that element. -/
def foreignEnd (name : String) (first : Bool) : List Open → ForeignEnd
  | [] => .nothing
  | o :: r =>
    if r.isEmpty then .nothing
    else if !first && o.name.vocabulary == .html then .ordinary
    else if Text.lower o.name.text.toList == name.toList then .leaves r
    else foreignEnd name false r

end Builder
end Metasearch.Html
