import CwebHighlight.Legend

/-!
# Encoding against a legend

A token is encoded by the index of its kind and by a word that holds one bit per modifier, at the
modifier's index. Encoding fails for a name that the legend does not have, and for a modifier
whose index is 32 or more, since the word has no such bit.

The kind is looked up first, then the modifiers in list order; the first failure is reported.
-/

namespace CwebHighlight

inductive EncodeError where
  | unknownKind (name : String)
  | unknownModifier (name : String)
  | bitOutOfRange
  deriving DecidableEq, Repr

def EncodeError.message : EncodeError → String
  | .unknownKind name => "token type `" ++ name ++ "` is not in the legend"
  | .unknownModifier name => "token modifier `" ++ name ++ "` is not in the legend"
  | .bitOutOfRange => "attempt to shift left with overflow"

/-- A token with an index for its kind and a set of bits for its modifiers. -/
structure EncodedToken where
  line : UInt32
  start : UInt32
  length : UInt32
  kindIndex : UInt32
  modifierBits : UInt32
  deriving DecidableEq, Repr

namespace Legend

/-- The word with the bit at an index, which must be below 32. -/
def bit (index : Nat) : Except EncodeError UInt32 :=
  if index < 32 then .ok (1 <<< UInt32.ofNat index) else .error .bitOutOfRange

def encodeKind (l : Legend) (kind : TokenKind) : Except EncodeError UInt32 :=
  match l.kindIndex? kind.name with
  | some index => .ok index
  | none => .error (.unknownKind kind.name)

def encodeModifier (l : Legend) (m : Modifier) : Except EncodeError UInt32 :=
  match l.modifierIndex? m.name with
  | some index => bit index.toNat
  | none => .error (.unknownModifier m.name)

/-- The bits of all modifiers together, added to `bits`. -/
def addModifiers (l : Legend) (bits : UInt32) : List Modifier → Except EncodeError UInt32
  | [] => .ok bits
  | m :: rest => do l.addModifiers (bits ||| (← l.encodeModifier m)) rest

def encodeModifiers (l : Legend) (modifiers : List Modifier) : Except EncodeError UInt32 :=
  l.addModifiers 0 modifiers

def encode (l : Legend) (t : Token) : Except EncodeError EncodedToken := do
  let kindIndex ← l.encodeKind t.kind
  let modifierBits ← l.encodeModifiers t.modifiers
  return ⟨t.line, t.start, t.length, kindIndex, modifierBits⟩

def encodeAll (l : Legend) (tokens : List Token) : Except EncodeError (List EncodedToken) :=
  tokens.mapM l.encode

end Legend

end CwebHighlight
