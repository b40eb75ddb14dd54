/-!
The numbers that describe a virtual node to the runtime. A node's flags hold exactly one kind bit
(an element kind, a component, text, void, portal or fragment) and may add the two modifiers
"re-create" and "content editable". Child flags say how the children are laid out. These numbers
are part of the emitted code.
-/
namespace JsxVNode.Flags

def htmlElement : Nat := 1
def component : Nat := 2
def text : Nat := 16
def svgElement : Nat := 32
def inputElement : Nat := 64
def textareaElement : Nat := 128
def selectElement : Nat := 256
def reCreate : Nat := 2048
def contentEditable : Nat := 4096
def fragment : Nat := 8192

def kindMask : Nat := 0x27FF
def modifierMask : Nat := 0x1800

def bitCount (width n : Nat) : Nat :=
  ((List.range width).filter fun i => n.testBit i).length

def isWellFormed (flags : Nat) : Bool :=
  bitCount 32 (flags &&& kindMask) == 1 && flags &&& (kindMask ||| modifierMask) == flags

def elementKind (tag : String) : Nat :=
  if tag == "svg" then svgElement
  else if tag == "input" then inputElement
  else if tag == "textarea" then textareaElement
  else if tag == "select" then selectElement
  else htmlElement

end JsxVNode.Flags

namespace JsxVNode.ChildFlags

def unknown : Nat := 0
def none : Nat := 1
def single : Nat := 2
def nonKeyed : Nat := 4
def keyed : Nat := 8
def text : Nat := 16
def multiple : Nat := 12

def ofDirective (name : String) : Option Nat :=
  if name == "$HasKeyedChildren" then some keyed
  else if name == "$HasNonKeyedChildren" then some nonKeyed
  else if name == "$HasVNodeChildren" then some single
  else if name == "$HasTextChildren" then some text
  else Option.none

end JsxVNode.ChildFlags
