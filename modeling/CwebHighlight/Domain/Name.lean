import CwebHighlight.Domain.Joining
import CwebHighlight.Domain.Mapping
import CwebHighlight.Domain.Punycode

/-!
# Domain names

A name is a sequence of labels between full stops. Its ASCII form, which is what is looked up and
compared, is found by mapping its characters and writing each label that is not ASCII with
`Punycode`, after `xn--`. A label that begins so already is read first, and must be what would be
written.

**Valid labels** hold only characters that are allowed and that mapping leaves alone, do not begin
with a mark, have joiners only where they show, and keep the rules of direction if any label of the
name is subject to them. What characters of ASCII a name may hold depends on what it is for, and
is left to the caller.
-/

namespace CwebHighlight.Domain

def asciiMark : List Char := "xn--".toList

def isAscii (label : List Char) : Bool := label.all Punycode.isBasic

def isValidLabel (label : List Char) : Bool :=
  !label.any isDisallowed && !label.head?.any isMark && joinersShow [] label

/-- The label that a mapped label stands for. -/
def readLabel? (label : List Char) : Option (List Char) :=
  if asciiMark.isPrefixOf label then do
    guard (isAscii label)
    let read ← Punycode.decode? (label.drop asciiMark.length)
    guard (!isAscii read && mapped read = read && !asciiMark.isPrefixOf read)
    return read
  else some label

/-- A label as it is looked up. -/
def asciiLabel (label : List Char) : List Char :=
  if isAscii label then label else asciiMark ++ Punycode.encode label

/-- The ASCII form of a name, if it is valid. -/
def asciiName? (name : List Char) : Option (List Char) := do
  let labels ← (cutAt (· = '.') (mapped name)).mapM readLabel?
  guard (labels.all isValidLabel)
  guard (labels.all (!isTwoWay ·) || labels.all keepsDirection)
  return ['.'].intercalate (labels.map asciiLabel)

end CwebHighlight.Domain
