import CwebHighlight.Encoding
import CwebHighlight.Proofs.Legend.Lookup
import Mathlib.Data.Nat.Bitwise

/-!
# Reading an encoded token by the published names

An encoded token holds numbers only. Whoever has the published lists reads them back: the index of
the kind leads to its name, and the bits that are set lead to the names of the modifiers.

**First places** (`FirstAt`). A name is encoded by its first place in a list, so names that stand in
the list more than once are no obstacle. Two names never share a place.

**Bits.** The word of a list of modifiers has the bits of all of them, in whatever order they come
and however often (`testBit_addModifiers`). It has 32 bits, so a modifier whose first place is
further back cannot be encoded (`encodeModifier_eq_ok_iff`).

Main result: `encode_decodable`, which also tells exactly when encoding fails.
-/

namespace CwebHighlight

/-! ## First places -/

/-- The first place of a name in a list. -/
def FirstAt (names : List String) (n : String) (i : Nat) : Prop :=
  names[i]? = some n ∧ ∀ j < i, names[j]? ≠ some n

instance (names : List String) (n : String) (i : Nat) : Decidable (FirstAt names n i) :=
  inferInstanceAs (Decidable (_ ∧ _))

theorem FirstAt.unique {names : List String} {n : String} {i j : Nat} (hi : FirstAt names n i)
    (hj : FirstAt names n j) : i = j := by
  rcases Nat.lt_trichotomy i j with hlt | heq | hgt
  · exact absurd hi.1 (hj.2 i hlt)
  · exact heq
  · exact absurd hj.1 (hi.2 j hgt)

theorem FirstAt.mem {names : List String} {n : String} {i : Nat} (h : FirstAt names n i) :
    n ∈ names :=
  List.mem_of_getElem? h.1

theorem exists_find?_indexNames_iff {names : List String} {n : String} :
    (∃ i, (indexNames names).find? n = some i) ↔ n ∈ names := by
  rw [← Option.ne_none_iff_exists', Ne, find?_indexNames_eq_none_iff, not_not]

namespace Legend

/-! ## One bit -/

theorem bit_eq_ok_iff {i : Nat} {w : UInt32} :
    bit i = .ok w ↔ i < 32 ∧ w = 1 <<< UInt32.ofNat i := by
  unfold bit
  by_cases h : i < 32
  · simp [h, eq_comm]
  · simp [h]

theorem testBit_one_shiftLeft {i : Nat} (hi : i < 32) (b : Nat) :
    ((1 : UInt32) <<< UInt32.ofNat i).toNat.testBit b = true ↔ b = i := by
  have hword : (UInt32.ofNat i).toNat = i :=
    UInt32.toNat_ofNat_of_lt' (Nat.lt_trans hi (by decide))
  have hpow : 2 ^ i < 2 ^ 32 := Nat.pow_lt_pow_right (by decide) hi
  have hshift : ((1 : UInt32) <<< UInt32.ofNat i).toNat = 2 ^ i := by
    rw [UInt32.toNat_shiftLeft, hword, Nat.mod_eq_of_lt hi, UInt32.toNat_one, Nat.shiftLeft_eq,
      Nat.one_mul, Nat.mod_eq_of_lt hpow]
  rw [hshift, Nat.testBit_two_pow, decide_eq_true_eq, eq_comm]

/-! ## The bits of a list -/

section

variable {l : Legend}

theorem addModifiers_cons_eq_ok_iff {bits r : UInt32} {m : Modifier} {rest : List Modifier} :
    l.addModifiers bits (m :: rest) = .ok r ↔
      ∃ w, l.encodeModifier m = .ok w ∧ l.addModifiers (bits ||| w) rest = .ok r := by
  rw [addModifiers]
  cases l.encodeModifier m with
  | error e => simp [bind, Except.bind]
  | ok w => simp [bind, Except.bind]

/-- A list of modifiers is encoded if each of them is. -/
theorem exists_addModifiers_iff (bits : UInt32) {ms : List Modifier} :
    (∃ r, l.addModifiers bits ms = .ok r) ↔ ∀ m ∈ ms, ∃ w, l.encodeModifier m = .ok w := by
  induction ms generalizing bits with
  | nil => simp [addModifiers]
  | cons m rest ih =>
    simp only [addModifiers_cons_eq_ok_iff, List.mem_cons, forall_eq_or_imp]
    constructor
    · rintro ⟨r, w, hw, hr⟩
      exact ⟨⟨w, hw⟩, (ih _).1 ⟨r, hr⟩⟩
    · rintro ⟨⟨w, hw⟩, hrest⟩
      obtain ⟨r, hr⟩ := (ih (bits ||| w)).2 hrest
      exact ⟨r, w, hw, hr⟩

/-- **The bits of a list** are those it began with and those of its members. -/
theorem testBit_addModifiers {bits r : UInt32} {ms : List Modifier}
    (h : l.addModifiers bits ms = .ok r) (b : Nat) :
    r.toNat.testBit b = true ↔ bits.toNat.testBit b = true ∨
      ∃ m ∈ ms, ∃ w, l.encodeModifier m = .ok w ∧ w.toNat.testBit b = true := by
  induction ms generalizing bits with
  | nil =>
    cases h
    simp
  | cons m rest ih =>
    obtain ⟨w, hw, hr⟩ := addModifiers_cons_eq_ok_iff.1 h
    have hm : (∃ w', l.encodeModifier m = .ok w' ∧ w'.toNat.testBit b = true) ↔
        w.toNat.testBit b = true := by
      simp [hw]
    rw [ih hr, UInt32.toNat_or, Nat.testBit_or, Bool.or_eq_true, or_assoc, ← hm]
    simp only [List.mem_cons, exists_eq_or_imp]

/-- **The word of a list** is determined by the words of its members. -/
theorem encodeModifiers_eq_ok_iff {ms : List Modifier} {bits : UInt32} :
    l.encodeModifiers ms = .ok bits ↔ (∀ m ∈ ms, ∃ w, l.encodeModifier m = .ok w) ∧
      ∀ b, bits.toNat.testBit b = true ↔
        ∃ m ∈ ms, ∃ w, l.encodeModifier m = .ok w ∧ w.toNat.testBit b = true := by
  have hbits {r : UInt32} (h : l.encodeModifiers ms = .ok r) (b : Nat) :
      r.toNat.testBit b = true ↔
        ∃ m ∈ ms, ∃ w, l.encodeModifier m = .ok w ∧ w.toNat.testBit b = true := by
    rw [testBit_addModifiers h, UInt32.toNat_zero, Nat.zero_testBit]
    simp only [Bool.false_eq_true, false_or]
  constructor
  · intro h
    exact ⟨(exists_addModifiers_iff 0).1 ⟨bits, h⟩, hbits h⟩
  · rintro ⟨hall, hword⟩
    obtain ⟨r, hr⟩ := (exists_addModifiers_iff 0).2 hall
    have hsame : r = bits := by
      apply UInt32.toNat_inj.1
      apply Nat.eq_of_testBit_eq
      intro b
      rw [Bool.eq_iff_iff, hbits hr, hword]
    rw [← hsame]
    exact hr

theorem encodeKind_eq_ok_iff {k : TokenKind} {i : UInt32} :
    l.encodeKind k = .ok i ↔ l.kindIndex? k.name = some i := by
  rw [encodeKind]
  cases l.kindIndex? k.name <;> simp

theorem encode_eq_ok_iff {t : Token} {e : EncodedToken} :
    l.encode t = .ok e ↔ l.encodeKind t.kind = .ok e.kindIndex ∧
      l.encodeModifiers t.modifiers = .ok e.modifierBits ∧
      e.line = t.line ∧ e.start = t.start ∧ e.length = t.length := by
  obtain ⟨line, start, length, kindIndex, modifierBits⟩ := e
  rw [encode]
  cases l.encodeKind t.kind with
  | error _ => simp [bind, Except.bind]
  | ok k =>
    cases l.encodeModifiers t.modifiers with
    | error _ => simp [bind, Except.bind]
    | ok w =>
      simp only [bind, Except.bind, pure, Except.pure, Except.ok.injEq, EncodedToken.mk.injEq]
      constructor
      · rintro ⟨rfl, rfl, rfl, rfl, rfl⟩
        exact ⟨rfl, rfl, rfl, rfl, rfl⟩
      · rintro ⟨rfl, rfl, rfl, rfl, rfl⟩
        exact ⟨rfl, rfl, rfl, rfl, rfl⟩

end

/-! ## Legends of names -/

variable {kinds modifiers : List String}

/-- **A modifier is encoded by its first place**, which must be one of the 32 bits. -/
theorem encodeModifier_eq_ok_iff (hmodifiers : modifiers.length ≤ 2 ^ 32) {m : Modifier}
    {w : UInt32} :
    (ofNames kinds modifiers).encodeModifier m = .ok w ↔
      ∃ i < 32, FirstAt modifiers m.name i ∧ w = 1 <<< UInt32.ofNat i := by
  rw [encodeModifier, modifierIndex?, ofNames]
  cases hindex : (indexNames modifiers).find? m.name with
  | none =>
    have hnone : m.name ∉ modifiers := find?_indexNames_eq_none_iff.1 hindex
    simp only [reduceCtorEq, false_iff]
    rintro ⟨i, -, hfirst, -⟩
    exact hnone hfirst.mem
  | some k =>
    have hk : FirstAt modifiers m.name k.toNat :=
      (find?_indexNames_eq_some_iff hmodifiers).1 hindex
    simp only [bit_eq_ok_iff]
    constructor
    · rintro ⟨hlt, rfl⟩
      exact ⟨k.toNat, hlt, hk, rfl⟩
    · rintro ⟨i, hlt, hi, rfl⟩
      obtain rfl := hk.unique hi
      exact ⟨hlt, rfl⟩

theorem exists_encodeModifier_iff (kinds : List String) (hmodifiers : modifiers.length ≤ 2 ^ 32)
    {m : Modifier} :
    (∃ w, (ofNames kinds modifiers).encodeModifier m = .ok w) ↔
      ∃ i < 32, FirstAt modifiers m.name i := by
  simp only [encodeModifier_eq_ok_iff hmodifiers]
  constructor
  · rintro ⟨w, i, hi, hfirst, -⟩
    exact ⟨i, hi, hfirst⟩
  · rintro ⟨i, hi, hfirst⟩
    exact ⟨_, i, hi, hfirst, rfl⟩

/-- **When a token can be encoded.** -/
theorem exists_encode_iff (kinds : List String) (hmodifiers : modifiers.length ≤ 2 ^ 32)
    {t : Token} :
    (∃ e, (ofNames kinds modifiers).encode t = .ok e) ↔
      t.kind.name ∈ kinds ∧ ∀ m ∈ t.modifiers, ∃ i < 32, FirstAt modifiers m.name i := by
  simp only [← exists_encodeModifier_iff kinds hmodifiers]
  constructor
  · rintro ⟨e, he⟩
    obtain ⟨hkind, hbits, -⟩ := encode_eq_ok_iff.1 he
    have hindex : ∃ i, (indexNames kinds).find? t.kind.name = some i :=
      ⟨_, encodeKind_eq_ok_iff.1 hkind⟩
    exact ⟨exists_find?_indexNames_iff.1 hindex, (exists_addModifiers_iff 0).1 ⟨_, hbits⟩⟩
  · rintro ⟨hknown, hall⟩
    obtain ⟨k, hk⟩ := exists_find?_indexNames_iff.2 hknown
    obtain ⟨w, hw⟩ := (exists_addModifiers_iff 0).2 hall
    exact ⟨⟨t.line, t.start, t.length, k, w⟩,
      encode_eq_ok_iff.2 ⟨encodeKind_eq_ok_iff.2 hk, hw, rfl, rfl, rfl⟩⟩

/-- **The bits of a token** are the first places of its modifiers. -/
theorem testBit_encodeModifiers (hmodifiers : modifiers.length ≤ 2 ^ 32) {ms : List Modifier}
    {bits : UInt32} (h : (ofNames kinds modifiers).encodeModifiers ms = .ok bits) {b : Nat}
    (hb : b < 32) :
    bits.toNat.testBit b = true ↔ ∃ m ∈ ms, FirstAt modifiers m.name b := by
  obtain ⟨-, hword⟩ := encodeModifiers_eq_ok_iff.1 h
  rw [hword]
  refine exists_congr fun m => and_congr_right fun _ => ?_
  constructor
  · rintro ⟨w, hw, hbit⟩
    obtain ⟨i, hi, hfirst, rfl⟩ := (encodeModifier_eq_ok_iff hmodifiers).1 hw
    rwa [(testBit_one_shiftLeft hi b).1 hbit]
  · intro hfirst
    refine ⟨_, (encodeModifier_eq_ok_iff hmodifiers).2 ⟨b, hb, hfirst, rfl⟩, ?_⟩
    exact (testBit_one_shiftLeft hb b).2 rfl

/-- **An encoded token can be read back.** Encoding fails if and only if the name of the kind is not
in the legend, or some modifier has no first place among the first 32. Otherwise the position and
the length are kept, the index leads to the name of the kind in the published list, and to no
earlier place of it; the bits are the first places of the modifiers, so the names at these places
are the modifiers of the token. -/
theorem encode_decodable (kinds modifiers : List String) (hkinds : kinds.length < 2 ^ 32)
    (hmodifiers : modifiers.length < 2 ^ 32) (t : Token) :
    let l := ofNames kinds modifiers
    ((∃ e, l.encode t = .ok e) ↔
      t.kind.name ∈ kinds ∧ ∀ m ∈ t.modifiers, ∃ i < 32, FirstAt modifiers m.name i) ∧
    ∀ e, l.encode t = .ok e →
      e.line = t.line ∧ e.start = t.start ∧ e.length = t.length ∧
      FirstAt l.published.kinds t.kind.name e.kindIndex.toNat ∧
      (∀ b < 32, e.modifierBits.toNat.testBit b = true ↔
        ∃ m ∈ t.modifiers, FirstAt l.published.modifiers m.name b) ∧
      ∀ name, (∃ b < 32, e.modifierBits.toNat.testBit b = true ∧
        l.published.modifiers[b]? = some name) ↔ ∃ m ∈ t.modifiers, m.name = name := by
  intro l
  have hkinds : kinds.length ≤ 2 ^ 32 := Nat.le_of_lt hkinds
  have hmodifiers : modifiers.length ≤ 2 ^ 32 := Nat.le_of_lt hmodifiers
  have hsuccess := exists_encode_iff kinds hmodifiers (t := t)
  refine ⟨hsuccess, fun e he => ?_⟩
  obtain ⟨hkind, hbits, hline, hstart, hlength⟩ := encode_eq_ok_iff.1 he
  have hfirst : FirstAt kinds t.kind.name e.kindIndex.toNat :=
    (find?_indexNames_eq_some_iff hkinds).1 (encodeKind_eq_ok_iff.1 hkind)
  have hplaces : ∀ b < 32, e.modifierBits.toNat.testBit b = true ↔
      ∃ m ∈ t.modifiers, FirstAt modifiers m.name b :=
    fun b hb => testBit_encodeModifiers hmodifiers hbits hb
  refine ⟨hline, hstart, hlength, hfirst, hplaces, fun name => ?_⟩
  constructor
  · rintro ⟨b, hb, hbit, hname⟩
    obtain ⟨m, hm, hplace⟩ := (hplaces b hb).1 hbit
    exact ⟨m, hm, Option.some.inj (hplace.1.symm.trans hname)⟩
  · rintro ⟨m, hm, rfl⟩
    obtain ⟨b, hb, hplace⟩ := (hsuccess.1 ⟨e, he⟩).2 m hm
    exact ⟨b, hb, (hplaces b hb).2 ⟨m, hm, hplace⟩, hplace.1⟩

/-- Names that occur twice, a foreign name between them, and a modifier that is given twice. -/
theorem encode_decodable_repeatedNames :
    let kinds := ["macro", "keyword", "keyword"]
    let modifiers := ["static", "async", "static", "readonly"]
    let t : Token := ⟨3, 1, 4, .keyword, [.readonly, .static, .readonly]⟩
    kinds.length < 2 ^ 32 ∧ modifiers.length < 2 ^ 32 ∧
      ∃ e, (ofNames kinds modifiers).encode t = .ok e ∧
        FirstAt kinds "keyword" e.kindIndex.toNat ∧
        e.modifierBits.toNat.testBit 0 = true ∧ e.modifierBits.toNat.testBit 2 = false ∧
        ∀ name, (∃ b < 32, e.modifierBits.toNat.testBit b = true ∧ modifiers[b]? = some name) ↔
          ∃ m ∈ t.modifiers, m.name = name := by
  intro kinds modifiers t
  have hkinds : kinds.length < 2 ^ 32 := by decide
  have hmodifiers : modifiers.length < 2 ^ 32 := by decide
  obtain ⟨hsuccess, hread⟩ := encode_decodable kinds modifiers hkinds hmodifiers t
  obtain ⟨e, he⟩ := hsuccess.2 ⟨by decide, by decide⟩
  obtain ⟨-, -, -, hkind, hplaces, hnames⟩ := hread e he
  refine ⟨hkinds, hmodifiers, e, he, hkind, (hplaces 0 (by decide)).2 (by decide), ?_, hnames⟩
  have htwo := hplaces 2 (by decide)
  rw [← Bool.not_eq_true, htwo]
  decide

end Legend

end CwebHighlight
