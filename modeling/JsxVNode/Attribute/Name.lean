/-!
How attribute names are spelled on plain elements. Markup uses camel case; the DOM wants some
names dashed (`strokeWidth` is `stroke-width`), some in lower case (`tabIndex` is `tabindex`),
and a few renamed outright (`htmlFor` is `for`, `xlinkHref` is `xlink:href`). A name in no table
is kept. Events have their own aliases (`onDoubleClick` is `onDblClick`).
-/
namespace JsxVNode.Attribute

def dashedNames : List String := [
  "accentHeight", "alignmentBaseline", "arabicForm", "baselineShift", "capHeight", "clipPath",
  "clipRule", "colorInterpolation", "colorInterpolationFilters", "colorProfile",
  "colorRendering", "dominantBaseline", "enableBackground", "fillOpacity", "fillRule",
  "floodColor", "floodOpacity", "fontFamily", "fontSize", "fontSizeAdjust", "fontStretch",
  "fontStyle", "fontVariant", "fontWeight", "glyphName", "glyphOrientationHorizontal",
  "glyphOrientationVertical", "horizAdvX", "horizOriginX", "imageRendering", "letterSpacing",
  "lightingColor", "markerEnd", "markerMid", "markerStart", "overlinePosition",
  "overlineThickness", "paintOrder", "pointerEvents", "renderingIntent", "shapeRendering",
  "stopColor", "stopOpacity", "strikethroughPosition", "strikethroughThickness",
  "strokeDasharray", "strokeDashoffset", "strokeLinecap", "strokeLinejoin", "strokeMiterlimit",
  "strokeOpacity", "strokeWidth", "textDecoration", "textRendering", "underlinePosition",
  "underlineThickness", "unicodeBidi", "unicodeRange", "unitsPerEm", "vAlphabetic", "vHanging",
  "vIdeographic", "vMathematical", "vectorEffect", "vertAdvY", "vertOriginX", "vertOriginY",
  "wordSpacing", "writingMode", "xHeight"]

def lowerCaseNames : List String := [
  "accessKey", "autoComplete", "autoCorrect", "autoPictureInPicture", "autoPlay",
  "autoCapitalize", "autoFocus", "autoSave", "cellPadding", "cellSpacing", "charSet", "classID",
  "codeBase", "colSpan", "contextMenu", "controlsList", "crossOrigin", "dateTime", "encType",
  "enterKeyHint", "exportParts", "fetchPriority", "formAction", "formEncType", "formMethod",
  "formNoValidate", "formTarget", "frameBorder", "hrefLang", "imageSizes", "imageSrcSet",
  "inputMode", "isMap", "itemID", "itemProp", "itemRef", "itemScope", "itemType", "keyParams",
  "keyType", "lengthAdjust", "marginHeight", "maxLength", "mediaGroup", "minLength", "noModule",
  "noValidate", "popoverTarget", "popoverTargetAction", "radioGroup", "readOnly",
  "referrerPolicy", "rowSpan", "spellCheck", "srcDoc", "srcLang", "srcSet", "tabIndex", "useMap",
  "xChannelSelector", "yChannelSelector"]

def renamedNames : List (String × String) := [
  ("htmlFor", "for"), ("acceptCharset", "accept-charset"), ("httpEquiv", "http-equiv"),
  ("textAnchor", "text-anchor"), ("transformOrigin", "transform-origin"),
  ("panose1", "panose-1"), ("xlinkActuate", "xlink:actuate"), ("xlinkArcrole", "xlink:arcrole"),
  ("xlinkHref", "xlink:href"), ("xlinkRole", "xlink:role"), ("xlinkShow", "xlink:show"),
  ("xlinkTitle", "xlink:title"), ("xlinkType", "xlink:type"), ("xmlBase", "xml:base"),
  ("xmlLang", "xml:lang"), ("xmlSpace", "xml:space"), ("xmlnsXlink", "xmlns:xlink")]

def dashed (name : String) : String :=
  String.ofList (name.toList.flatMap fun c => if c.isUpper then ['-', c.toLower] else [c])

def domName (name : String) : String :=
  match renamedNames.lookup name with
  | some renamed => renamed
  | none =>
    if dashedNames.contains name then dashed name
    else if lowerCaseNames.contains name then String.ofList (name.toList.map Char.toLower)
    else name

def eventName (name : String) : String :=
  if name == "onDoubleClick" then "onDblClick" else name

def isHookName (name : String) : Bool :=
  "onComponent".toList.isPrefixOf name.toList && name.utf8ByteSize > 11

def isEventName (name : String) : Bool :=
  "on".toList.isPrefixOf name.toList && name.utf8ByteSize > 3

end JsxVNode.Attribute
