import CwebHighlight.Proofs.Text.Lines
import CwebHighlight.Proofs.Text.Reader
import CwebHighlight.Render

/-!
# Reading a token list from its lines

A reader for the format `simple`. Each part of a line ends where the next one begins: a number at
the mark after it, the name of a kind at the bracket or the end of the line, since a name has
letters only. So the whole run of letters is the name, and a name that begins like another one is
not cut short.

**Round trip.** A token is read from its line, whatever comes after it, and so a token list is read
from its lines (`simpleTokens?_renderSimple`).

**Lines.** A line has no line break within it, so the text has one line for each token, and nothing
after the last line break (`splitLines_renderSimple`).
-/

namespace CwebHighlight

open Reader

/-! ## The reader -/

/-- A decimal number in 32 bits. -/
def wordReader : Reader UInt32 := do
  let digits ← span1 isDecimalDigit
  guard (numberOfDigits 10 digits < 0x100000000)
  return UInt32.ofNat (numberOfDigits 10 digits)

/-- A run of letters that is a name. -/
def nameReader {α : Type} (ofName? : String → Option α) : Reader α := do
  let letters ← span1 Char.isAlpha
  (ofName? (String.ofList letters)).elim failure pure

/-- Names of modifiers between brackets, or nothing. -/
def modifiersReader : Reader (List Modifier) := do
  if startsWith (· = '[') (← rest) then
    char '['
    let first ← nameReader Modifier.ofName?
    let others ← repeatWhile (startsWith (· = ',')) do
      char ','
      nameReader Modifier.ofName?
    char ']'
    return first :: others
  else return []

def tokenReader : Reader Token := do
  let line ← wordReader
  char ':'
  let start ← wordReader
  char '+'
  let length ← wordReader
  char ' '
  let kind ← nameReader TokenKind.ofName?
  let modifiers ← modifiersReader
  char '\n'
  return ⟨line, start, length, kind, modifiers⟩

/-- The token list that a text writes, one token a line. -/
def simpleTokens? (text : String) : Option (List Token) :=
  run? (repeatWhile (!·.isEmpty) tokenReader) text.toList

/-! ## Numbers and names -/

variable {rest : List Char}

theorem wordReader_toDigits (n : UInt32) (hrest : startsWith isDecimalDigit rest = false) :
    wordReader (Nat.toDigits 10 n.toNat ++ rest) = some (n, rest) := by
  have hdigits : ∀ c ∈ Nat.toDigits 10 n.toNat, isDecimalDigit c = true := by
    intro c hc
    rw [isDecimalDigit_eq_isDigit]
    exact isDigit_of_mem_toDigits c hc
  rw [wordReader, bind_of_eq (span1_append Nat.toDigits_ne_nil hdigits hrest),
    numberOfDigits_toDigits, bind_of_eq (guard_of n.toNat_lt), UInt32.ofNat_toNat]
  rfl

theorem nameReader_of_name {α : Type} {ofName? : String → Option α} {name : String} {a : α}
    (hname : ofName? name = some a) (hne : name.toList ≠ [])
    (hletters : ∀ c ∈ name.toList, c.isAlpha = true)
    (hrest : startsWith Char.isAlpha rest = false) :
    nameReader ofName? (name.toList ++ rest) = some (a, rest) := by
  rw [nameReader, bind_of_eq (span1_append hne hletters hrest), String.ofList_toList, hname]
  rfl

theorem TokenKind.isAlpha_name (k : TokenKind) :
    k.name.toList ≠ [] ∧ ∀ c ∈ k.name.toList, c.isAlpha = true := by
  rw [← List.all_eq_true]
  cases k <;> decide

theorem TokenKind.ofName?_name (k : TokenKind) : ofName? k.name = some k := by
  cases k <;> rfl

theorem Modifier.isAlpha_name (m : Modifier) :
    m.name.toList ≠ [] ∧ ∀ c ∈ m.name.toList, c.isAlpha = true := by
  rw [← List.all_eq_true]
  cases m <;> decide

theorem Modifier.ofName?_name (m : Modifier) : ofName? m.name = some m := by
  cases m <;> rfl

theorem nameReader_kind (k : TokenKind) (hrest : startsWith Char.isAlpha rest = false) :
    nameReader TokenKind.ofName? (k.name.toList ++ rest) = some (k, rest) :=
  nameReader_of_name k.ofName?_name k.isAlpha_name.1 k.isAlpha_name.2 hrest

theorem nameReader_modifier (m : Modifier) (hrest : startsWith Char.isAlpha rest = false) :
    nameReader Modifier.ofName? (m.name.toList ++ rest) = some (m, rest) :=
  nameReader_of_name m.ofName?_name m.isAlpha_name.1 m.isAlpha_name.2 hrest

/-! ## Modifiers -/

/-- The modifiers of a token in brackets, if there are any. -/
def modifiersText (modifiers : List Modifier) : List Char :=
  if modifiers.isEmpty then []
  else '[' :: ([','].intercalate (modifiers.map (·.name.toList)) ++ [']'])

theorem modifiersText_cons (m : Modifier) (modifiers : List Modifier) :
    modifiersText (m :: modifiers) = '[' :: (m.name.toList ++
      (modifiers.flatMap (fun m => ',' :: m.name.toList) ++ [']'])) := by
  simp [modifiersText, intercalate_cons, List.flatMap_map]

/-- The modifiers after the first one, each with the comma before it. -/
theorem repeats_modifiers (modifiers : List Modifier) :
    Repeats (startsWith (· = ',')) (do char ','; nameReader Modifier.ofName?)
      (modifiers.flatMap (fun m => ',' :: m.name.toList) ++ ']' :: rest) modifiers
      (']' :: rest) := by
  induction modifiers with
  | nil => exact .stop rfl
  | cons m modifiers ih =>
    have hnext : startsWith Char.isAlpha
        (modifiers.flatMap (fun m => ',' :: m.name.toList) ++ ']' :: rest) = false := by
      cases modifiers <;> rfl
    rw [List.flatMap_cons, List.append_assoc, List.cons_append]
    refine .item rfl ((bind_of_eq (char_cons ',') _).trans (nameReader_modifier m hnext)) ?_ ih
    simp only [List.length_append, List.length_cons]
    omega

theorem modifiersReader_modifiersText (modifiers : List Modifier) :
    modifiersReader (modifiersText modifiers ++ '\n' :: rest) = some (modifiers, '\n' :: rest) := by
  rw [modifiersReader, bind_of_eq (rfl : Reader.rest _ = _)]
  cases modifiers with
  | nil => rfl
  | cons m modifiers =>
    have hnext : startsWith Char.isAlpha
        (modifiers.flatMap (fun m => ',' :: m.name.toList) ++ ']' :: '\n' :: rest) = false := by
      cases modifiers <;> rfl
    rw [modifiersText_cons]
    simp only [List.cons_append, List.append_assoc, List.nil_append, startsWith, decide_true,
      if_true]
    rw [bind_of_eq (char_cons '['), bind_of_eq (nameReader_modifier m hnext),
      bind_of_eq (repeats_modifiers modifiers).repeatWhile, bind_of_eq (char_cons ']')]
    rfl

/-! ## Tokens -/

theorem Token.toList_simpleText (t : Token) :
    t.simpleText.toList = Nat.toDigits 10 t.line.toNat ++ ':' ::
      (Nat.toDigits 10 t.start.toNat ++ '+' :: (Nat.toDigits 10 t.length.toNat ++ ' ' ::
        (t.kind.name.toList ++ modifiersText t.modifiers))) := by
  rw [simpleText, modifiersText]
  split <;> simp [Function.comp_def]

theorem startsWith_modifiersText (modifiers : List Modifier) :
    startsWith Char.isAlpha (modifiersText modifiers ++ '\n' :: rest) = false := by
  cases modifiers <;> rfl

/-- **One token** is read from its line, whatever comes after it. -/
theorem tokenReader_simpleText (t : Token) :
    tokenReader (t.simpleText.toList ++ '\n' :: rest) = some (t, rest) := by
  rw [t.toList_simpleText]
  simp only [List.append_assoc, List.cons_append]
  rw [tokenReader, bind_of_eq (wordReader_toDigits t.line rfl), bind_of_eq (char_cons ':'),
    bind_of_eq (wordReader_toDigits t.start rfl), bind_of_eq (char_cons '+'),
    bind_of_eq (wordReader_toDigits t.length rfl), bind_of_eq (char_cons ' '),
    bind_of_eq (nameReader_kind t.kind (startsWith_modifiersText t.modifiers)),
    bind_of_eq (modifiersReader_modifiersText t.modifiers), bind_of_eq (char_cons '\n')]
  rfl

theorem toList_renderSimple (tokens : List Token) :
    (renderSimple tokens).toList = tokens.flatMap fun t => t.simpleText.toList ++ ['\n'] := by
  simp [renderSimple, List.flatMap_map]

theorem repeats_tokens (tokens : List Token) :
    Repeats (!·.isEmpty) tokenReader
      (tokens.flatMap fun t => t.simpleText.toList ++ ['\n']) tokens [] := by
  induction tokens with
  | nil => exact .stop rfl
  | cons t tokens ih =>
    rw [List.flatMap_cons, List.append_assoc, List.singleton_append]
    refine .item ?_ (tokenReader_simpleText t) ?_ ih
    · simp
    · simp only [List.length_append, List.length_cons]
      omega

/-- **The token list is read from its lines.** -/
theorem simpleTokens?_renderSimple (tokens : List Token) :
    simpleTokens? (renderSimple tokens) = some tokens := by
  rw [simpleTokens?, toList_renderSimple]
  exact run?_of_eq (repeats_tokens tokens).repeatWhile

/-! ## Lines -/

/-- The characters that a line is made of. -/
def isLineChar (c : Char) : Bool := c.isAlphanum || [':', '+', ' ', '[', ',', ']'].contains c

theorem isLineChar_of_isDigit {c : Char} (h : c.isDigit = true) : isLineChar c = true := by
  simp [isLineChar, Char.isAlphanum, h]

theorem isLineChar_of_isAlpha {c : Char} (h : c.isAlpha = true) : isLineChar c = true := by
  simp [isLineChar, Char.isAlphanum, h]

theorem isLineChar_of_mem_modifiersText (modifiers : List Modifier) :
    ∀ c ∈ modifiersText modifiers, isLineChar c = true := by
  have hname (m : Modifier) : ∀ c ∈ m.name.toList, isLineChar c = true :=
    fun c hc => isLineChar_of_isAlpha (m.isAlpha_name.2 c hc)
  cases modifiers with
  | nil => exact fun c hc => absurd hc List.not_mem_nil
  | cons m modifiers =>
    rw [modifiersText_cons]
    simp only [List.forall_mem_cons, List.forall_mem_append]
    refine ⟨rfl, hname m, fun c hc => ?_, rfl, nofun⟩
    obtain ⟨m', -, hc⟩ := List.mem_flatMap.1 hc
    rcases List.mem_cons.1 hc with rfl | hc
    · rfl
    · exact hname m' c hc

theorem Token.isLineChar_of_mem_simpleText (t : Token) :
    ∀ c ∈ t.simpleText.toList, isLineChar c = true := by
  have hdigits (n : Nat) : ∀ c ∈ Nat.toDigits 10 n, isLineChar c = true :=
    fun c hc => isLineChar_of_isDigit (isDigit_of_mem_toDigits c hc)
  rw [t.toList_simpleText]
  simp only [List.forall_mem_append, List.forall_mem_cons]
  exact ⟨hdigits _, rfl, hdigits _, rfl, hdigits _, rfl,
    fun c hc => isLineChar_of_isAlpha (t.kind.isAlpha_name.2 c hc),
    isLineChar_of_mem_modifiersText t.modifiers⟩

/-- **One line a token.** The lines of the text are those of the tokens, and nothing follows the
last line break. -/
theorem splitLines_renderSimple (tokens : List Token) :
    splitLines (renderSimple tokens).toList = tokens.map (·.simpleText.toList) ++ [[]] := by
  let d : Layout := ⟨tokens.map fun t => (t.simpleText.toList, .lf), []⟩
  have hlines : d.lines = tokens.map (·.simpleText.toList) ++ [[]] := by
    simp [d, Layout.lines, Function.comp_def]
  have htext : d.text = (renderSimple tokens).toList := by
    simp [d, Layout.text, toList_renderSimple, LineBreak.chars, List.flatMap_map]
  have hd : d.WellFormed := by
    refine ⟨?_, ?_⟩
    · rw [hlines]
      intro l hl hfeed
      rcases List.mem_append.1 hl with hl | hl
      · obtain ⟨t, -, rfl⟩ := List.mem_map.1 hl
        exact absurd (t.isLineChar_of_mem_simpleText '\n' hfeed) (by decide)
      · obtain rfl := List.mem_singleton.1 hl
        exact absurd hfeed List.not_mem_nil
    · intro l hl _ hreturn
      obtain ⟨t, -, rfl⟩ := List.mem_map.1 hl
      dsimp only at hreturn
      exact absurd (t.isLineChar_of_mem_simpleText _ (List.mem_of_getLast? hreturn)) (by decide)
  rw [← htext, ← Layout.lines_ofText, Layout.ofText_text hd, hlines]

end CwebHighlight
