import CwebHighlight.Settings.KeyPath
import CwebHighlight.Text.Lowercase
import Mathlib

/-!
# Plain keys

An identifier is a key that is one name: as a key path it has no further steps
(`KeyPath.parse_identifier`).

A plain key is an identifier of lower-case letters, digits, hyphens and underscores only. Merging
leaves such a key as it is, since it is its own lower case (`lowercase_of_plainKey`). Two plain keys
with a point between them are the path of the two names (`KeyPath.parse_dotted`).
-/

namespace CwebHighlight.Settings

structure Identifier (key : String) : Prop where
  ne_nil : key.toList ≠ []
  names : ∀ c ∈ key.toList, KeyPath.isNameChar c = true

instance (key : String) : Decidable (Identifier key) :=
  decidable_of_iff (key.toList ≠ [] ∧ key.toList.all KeyPath.isNameChar = true)
    ⟨fun h => ⟨h.1, List.all_eq_true.1 h.2⟩, fun h => ⟨h.ne_nil, List.all_eq_true.2 h.names⟩⟩

def isPlainKeyChar (c : Char) : Bool := c.isLower || c.isDigit || c = '-' || c = '_'

structure PlainKey (key : String) : Prop where
  ne_nil : key.toList ≠ []
  plain : ∀ c ∈ key.toList, isPlainKeyChar c = true

instance (key : String) : Decidable (PlainKey key) :=
  decidable_of_iff (key.toList ≠ [] ∧ key.toList.all isPlainKeyChar = true)
    ⟨fun h => ⟨h.1, List.all_eq_true.1 h.2⟩, fun h => ⟨h.ne_nil, List.all_eq_true.2 h.plain⟩⟩

/-! ## Lower case -/

theorem lowercaseRuns_ascii :
    ∀ r ∈ lowercaseRuns, r.first = 0x41 ∧ r.last = 0x5A ∨ 0x80 ≤ r.first := by
  decide +kernel

theorem toNat_of_isPlainKeyChar {c : Char} (h : isPlainKeyChar c = true) :
    c.toNat < 0x80 ∧ ¬(0x41 ≤ c.toNat ∧ c.toNat ≤ 0x5A) := by
  simp only [isPlainKeyChar, Char.isLower, Char.isDigit, Bool.or_eq_true, Bool.and_eq_true,
    decide_eq_true_eq, ge_iff_le, UInt32.le_iff_toNat_le] at h
  rcases h with ((hlower | hdigit) | rfl) | rfl
  · change 97 ≤ c.toNat ∧ c.toNat ≤ 122 at hlower
    omega
  · change 48 ≤ c.toNat ∧ c.toNat ≤ 57 at hdigit
    omega
  · decide
  · decide

theorem lowerChar_of_isPlainKeyChar {c : Char} (h : isPlainKeyChar c = true) :
    lowerChar c = [c] := by
  have hascii := toNat_of_isPlainKeyChar h
  have hruns : lowercaseRuns.find? (·.contains c.toNat) = none := by
    rw [List.find?_eq_none]
    intro r hr
    have hr := lowercaseRuns_ascii r hr
    simp only [CaseRun.contains, Bool.and_eq_true, decide_eq_true_eq]
    omega
  have hdot : c ≠ '\u0130' := by
    rintro rfl
    exact absurd hascii.1 (by decide)
  rw [lowerChar, if_neg hdot, hruns]

theorem lowercaseAfter_of_plain {cs : List Char} (h : ∀ c ∈ cs, isPlainKeyChar c = true)
    (before : List Char) : lowercaseAfter before cs = cs := by
  induction cs generalizing before with
  | nil => rfl
  | cons c cs ih =>
    rw [List.forall_mem_cons] at h
    have hsigma : c ≠ 'Σ' := by
      rintro rfl
      exact absurd h.1 (by decide)
    rw [lowercaseAfter, if_neg hsigma, lowerChar_of_isPlainKeyChar h.1, ih h.2,
      List.singleton_append]

theorem lowercase_of_plainKey {key : String} (h : PlainKey key) : lowercase key = key := by
  rw [lowercase, lowercaseAfter_of_plain h.plain, String.ofList_toList]

/-! ## Key paths -/

namespace KeyPath

variable {key inner : String}

theorem isNameChar_of_isPlainKeyChar {c : Char} (h : isPlainKeyChar c = true) :
    isNameChar c = true := by
  unfold isPlainKeyChar at h
  unfold isNameChar Char.isAlphanum Char.isAlpha
  grind

theorem identifier_of_plainKey (h : PlainKey key) : Identifier key :=
  ⟨h.ne_nil, fun c hc => isNameChar_of_isPlainKeyChar (h.plain c hc)⟩

/-- An identifier is the name that a text begins with, if no more of a name follows. -/
theorem takeWhile_isNameChar (h : Identifier key) {rest : List Char}
    (hrest : startsWith isNameChar rest = false) :
    (key.toList ++ rest).takeWhile isNameChar = key.toList := by
  rw [List.takeWhile_append_of_pos h.names]
  cases rest with
  | nil => rw [List.takeWhile_nil, List.append_nil]
  | cons c rest => rw [List.takeWhile_cons_of_neg (by simpa [startsWith] using hrest),
      List.append_nil]

theorem parseSteps_nil : parseSteps [] = .ok [] := by
  rw [parseSteps]
  rfl

theorem parseSteps_name (hinner : Identifier inner) :
    parseSteps ('.' :: inner.toList) = .ok [.name inner] := by
  have hname : inner.toList.takeWhile isNameChar = inner.toList := by
    have htake := takeWhile_isNameChar hinner (rfl : startsWith isNameChar [] = false)
    rwa [List.append_nil] at htake
  have hstep : parseName? ('.' :: inner.toList) = some (.name inner, []) := by
    rw [parseName?, hname, if_neg (by simpa using hinner.ne_nil), String.ofList_toList,
      List.drop_length]
  rw [parseSteps, hstep]
  simp only [List.isEmpty_cons, Bool.false_eq_true, if_false, List.length_nil, List.length_cons,
    Nat.zero_lt_succ, if_true, parseSteps_nil, pure_bind]
  rfl

theorem parse_append (h : Identifier key) {rest : List Char} {steps : List PathStep} {text : String}
    (htext : text.toList = key.toList ++ rest) (hrest : startsWith isNameChar rest = false)
    (hsteps : parseSteps rest = .ok steps) : parse text = .ok ⟨key, steps⟩ := by
  have hempty : key.toList.isEmpty = false := List.isEmpty_eq_false_iff.2 h.ne_nil
  rw [parse, htext, takeWhile_isNameChar h hrest, hempty, List.drop_left, hsteps,
    String.ofList_toList]
  rfl

theorem parse_identifier (h : Identifier key) : parse key = .ok ⟨key, []⟩ :=
  parse_append h (List.append_nil _).symm rfl parseSteps_nil

theorem parse_dotted (h : PlainKey key) (hinner : PlainKey inner) :
    parse (key ++ "." ++ inner) = .ok ⟨key, [.name inner]⟩ :=
  parse_append (identifier_of_plainKey h) (by simp) rfl
    (parseSteps_name (identifier_of_plainKey hinner))

end KeyPath

end CwebHighlight.Settings
