import CwebHighlight.Proofs.Legend.Decoding
import CwebHighlight.Proofs.Text.Reader
import CwebHighlight.Render
import Mathlib.Data.List.Nodup

/-!
# The printed legend

The text of a legend counts the places of the lists, and the encoder looks names up in a table. What
an entry says is read back from its text: the index from the front, and the bit of a modifier from
the end, since a name may hold anything (`ofKindText?_entryText`, `ofModifierText?_modifierText`).

**Success.** There is a bit for each of the first 32 places. So a legend is printed exactly if it
has no more modifiers, whether a token uses them or not (`render_eq_error_iff`).

**Agreement.** The first entry with a name is at the first place of the name in the list, and that
is the index that the table holds (`find?_entriesOf_eq_lookup`).

Main result: `printed_entries_agree`.
-/

namespace CwebHighlight

open Reader

/-! ## Reading an entry -/

/-- What an entry of a printed legend says. -/
structure LegendEntry where
  index : Nat
  name : String
  bit : Option Nat
  deriving DecidableEq, Repr

/-- The index in front of an entry, and the blanks around it. -/
def indexReader : Reader Nat := do
  let _ ← span (· = ' ')
  let digits ← span1 isDecimalDigit
  word [' ', ' ']
  return numberOfDigits 10 digits

/-- The bit at the end of an entry, read backwards. -/
def bitReader : Reader Nat := do
  char ')'
  let digits ← span1 (isDigitOf 16)
  word ['x', '0', ' ', 't', 'i', 'b', '(', ' ']
  return numberOfDigits 16 digits.reverse

/-- What the text of a kind's entry says. -/
def LegendEntry.ofKindText? (text : String) : Option LegendEntry := do
  let (index, name) ← indexReader text.toList
  return ⟨index, String.ofList name, none⟩

/-- What the text of a modifier's entry says. The name is what the two readers leave over. -/
def LegendEntry.ofModifierText? (text : String) : Option LegendEntry := do
  let (index, rest) ← indexReader text.toList
  let (bit, name) ← bitReader rest.reverse
  return ⟨index, String.ofList name.reverse, some bit⟩

theorem indexReader_entryText (i : Nat) (name : String) (rest : List Char) :
    indexReader ((Legend.entryText i name).toList ++ rest) = some (i, name.toList ++ rest) := by
  have htext : ∃ blanks : List Char, (∀ c ∈ blanks, c = ' ') ∧
      (Legend.entryText i name).toList =
        blanks ++ (Nat.toDigits 10 i ++ ([' ', ' '] ++ name.toList)) := by
    rw [Legend.entryText]
    split
    · exact ⟨[' ', ' ', ' '], by simp, by simp⟩
    · exact ⟨[' ', ' '], by simp, by simp⟩
  obtain ⟨blanks, hblanks, htext⟩ := htext
  have hdigits : ∀ c ∈ Nat.toDigits 10 i, isDecimalDigit c = true := fun c hc => by
    rw [isDecimalDigit_eq_isDigit]
    exact isDigit_of_mem_toDigits c hc
  obtain ⟨d, ds, hds, hd⟩ := toDigits_eq_cons i
  have hstop : startsWith (fun c => decide (c = ' '))
      (Nat.toDigits 10 i ++ ([' ', ' '] ++ (name.toList ++ rest))) = false := by
    rw [hds]
    exact decide_eq_false (ne_of_isDigit hd (by decide))
  rw [htext]
  simp only [List.append_assoc]
  rw [indexReader, bind_of_eq (span_append (fun c hc => decide_eq_true (hblanks c hc)) hstop),
    bind_of_eq (span1_append Nat.toDigits_ne_nil hdigits rfl), bind_of_eq (word_append _ _),
    numberOfDigits_toDigits]
  rfl

theorem ofKindText?_entryText (i : Nat) (name : String) :
    LegendEntry.ofKindText? (Legend.entryText i name) = some ⟨i, name, none⟩ := by
  have hindex := indexReader_entryText i name []
  rw [List.append_nil, List.append_nil] at hindex
  rw [LegendEntry.ofKindText?, hindex]
  simp

/-! ## Modifiers -/

namespace Legend

/-- The number that is printed for the bit at an index. -/
def bitNumber (i : Nat) : Nat := ((1 : UInt32) <<< UInt32.ofNat i).toNat

/-- The entry of a modifier that has a bit. -/
def modifierText (i : Nat) (name : String) : String :=
  entryText i name ++ " (bit 0x" ++ hexText 1 (bitNumber i) ++ ")"

theorem bitNumber_inj {i j : Nat} (hi : i < 32) (hj : j < 32) (h : bitNumber i = bitNumber j) :
    i = j := by
  have hbit : (bitNumber j).testBit i = true := by
    rw [← h]
    exact (testBit_one_shiftLeft hi i).2 rfl
  exact (testBit_one_shiftLeft hj i).1 hbit

theorem hexText_bitNumber : ∀ i < 32,
    (hexText 1 (bitNumber i)).toList ≠ [] ∧
      (hexText 1 (bitNumber i)).toList.all (isDigitOf 16) = true ∧
      numberOfDigits 16 (hexText 1 (bitNumber i)).toList = bitNumber i := by
  simp only [hexText, String.toList_ofList]
  decide +kernel

end Legend

theorem ofModifierText?_modifierText {i : Nat} (hi : i < 32) (name : String) :
    LegendEntry.ofModifierText? (Legend.modifierText i name) =
      some ⟨i, name, some (Legend.bitNumber i)⟩ := by
  obtain ⟨hne, hdigits, hvalue⟩ := Legend.hexText_bitNumber i hi
  set digits := (hexText 1 (Legend.bitNumber i)).toList with hhex
  have htext : (Legend.modifierText i name).toList = (Legend.entryText i name).toList ++
      ([' ', '(', 'b', 'i', 't', ' ', '0', 'x'] ++ digits ++ [')']) := by
    simp [Legend.modifierText, hhex]
  have hbit : bitReader (name.toList ++
      ([' ', '(', 'b', 'i', 't', ' ', '0', 'x'] ++ digits ++ [')'])).reverse =
        some (numberOfDigits 16 digits, name.toList.reverse) := by
    have hback : (name.toList ++
        ([' ', '(', 'b', 'i', 't', ' ', '0', 'x'] ++ digits ++ [')'])).reverse =
          ')' :: (digits.reverse ++ (['x', '0', ' ', 't', 'i', 'b', '(', ' '] ++
            name.toList.reverse)) := by
      simp
    rw [hback, bitReader, bind_of_eq (char_cons ')'),
      bind_of_eq (span1_append (by simpa using hne) (by simpa using hdigits) rfl),
      bind_of_eq (word_append _ _), List.reverse_reverse]
    rfl
  rw [LegendEntry.ofModifierText?, htext, indexReader_entryText]
  simp only [Option.bind_eq_bind, Option.bind_some, hbit, hvalue]
  simp

/-! ## Success -/

section

variable {α β ε : Type} {f : α → Except ε β} {e : ε}

theorem mapM_eq_ok_map {g : α → β} {as : List α} (h : ∀ a ∈ as, f a = .ok (g a)) :
    as.mapM f = .ok (as.map g) := by
  induction as with
  | nil => rfl
  | cons a as ih =>
    rw [List.mapM_cons, h a List.mem_cons_self, ih fun b hb => h b (List.mem_cons_of_mem a hb)]
    rfl

/-- A traversal with one kind of error has it as soon as one member does. -/
theorem mapM_eq_error {as : List α} (h : ∀ a ∈ as, (∃ b, f a = .ok b) ∨ f a = .error e)
    (hfail : ∃ a ∈ as, f a = .error e) : as.mapM f = .error e := by
  induction as with
  | nil =>
    obtain ⟨a, ha, -⟩ := hfail
    cases ha
  | cons a as ih =>
    rw [List.mapM_cons]
    rcases h a List.mem_cons_self with ⟨b, hb⟩ | herror
    · -- The failure is further back.
      have hrest : ∃ a' ∈ as, f a' = .error e := by
        obtain ⟨a', ha', herror⟩ := hfail
        rcases List.mem_cons.1 ha' with rfl | ha'
        · rw [hb] at herror
          cases herror
        · exact ⟨a', ha', herror⟩
      rw [hb, ih (fun a' ha' => h a' (List.mem_cons_of_mem a ha')) hrest]
      rfl
    · rw [herror]
      rfl

end

namespace Legend

variable {l : Legend}

theorem bit_of_lt {i : Nat} (h : i < 32) : bit i = .ok (1 <<< UInt32.ofNat i) := if_pos h

theorem bit_of_le {i : Nat} (h : 32 ≤ i) : bit i = .error .bitOutOfRange := if_neg (by omega)

theorem modifierEntries_of_le (h : l.modifiers.length ≤ 32) :
    l.modifierEntries = .ok (l.modifiers.zipIdx.map fun e => modifierText e.2 e.1) := by
  refine mapM_eq_ok_map fun e he => ?_
  have hplace : e.2 < 32 := Nat.lt_of_lt_of_le (List.snd_lt_of_mem_zipIdx he) (by omega)
  simp only [bit_of_lt hplace]
  rfl

theorem modifierEntries_of_lt (h : 32 < l.modifiers.length) :
    l.modifierEntries = .error .bitOutOfRange := by
  refine mapM_eq_error (fun e _ => ?_) ⟨(l.modifiers[32], 32), ?_, ?_⟩
  · rcases Nat.lt_or_ge e.2 32 with hlt | hge
    · simp only [bit_of_lt hlt]
      exact .inl ⟨_, rfl⟩
    · simp only [bit_of_le hge]
      exact .inr rfl
  · exact List.mem_zipIdx_iff_getElem?.2 (List.getElem?_eq_getElem h)
  · simp only [bit_of_le (Nat.le_refl 32)]
    rfl

theorem render_of_le (h : l.modifiers.length ≤ 32) :
    l.render = .ok ("Token types:\n" ++ String.join (l.kindEntries.map (· ++ "\n")) ++
      "\nToken modifiers:\n" ++ String.join
        ((l.modifiers.zipIdx.map fun e => modifierText e.2 e.1).map (· ++ "\n"))) := by
  rw [render, modifierEntries_of_le h]
  rfl

theorem render_of_lt (h : 32 < l.modifiers.length) : l.render = .error .bitOutOfRange := by
  rw [render, modifierEntries_of_lt h]
  rfl

/-- **A legend is printed exactly if there is a bit for every modifier.** -/
theorem render_eq_error_iff {e : EncodeError} :
    l.render = .error e ↔ e = .bitOutOfRange ∧ 32 < l.modifiers.length := by
  rcases Nat.lt_or_ge 32 l.modifiers.length with hlt | hle
  · rw [render_of_lt hlt, Except.error.injEq]
    exact ⟨fun he => ⟨he.symm, hlt⟩, fun he => he.1.symm⟩
  · rw [render_of_le hle]
    exact ⟨nofun, fun he => absurd he.2 (Nat.not_lt.2 hle)⟩

end Legend

/-! ## Agreement -/

/-- What the entries of a list say, with the bit at each place. -/
def entriesOf (bitAt : Nat → Option Nat) (names : List String) : List LegendEntry :=
  names.zipIdx.map fun e => ⟨e.2, e.1, bitAt e.2⟩

theorem map_name_index_entriesOf (bitAt : Nat → Option Nat) (names : List String) :
    (entriesOf bitAt names).map (fun e => (e.name, e.index)) = names.zipIdx := by
  simp [entriesOf, Function.comp_def]

theorem find?_entriesOf (bitAt : Nat → Option Nat) (names : List String) (name : String) :
    (entriesOf bitAt names).find? (·.name = name) =
      (names.idxOf? name).map fun i => ⟨i, name, bitAt i⟩ := by
  have hplace : names.idxOf? name = (names.zipIdx.find? fun e => e.1 = name).map (·.2) := by
    rw [List.idxOf?, List.findIdx?_eq_fst_find?_zipIdx]
    rfl
  have hentries : (entriesOf bitAt names).find? (·.name = name) =
      (names.zipIdx.find? fun e => e.1 = name).map fun e => ⟨e.2, e.1, bitAt e.2⟩ := by
    rw [entriesOf, List.find?_map]
    rfl
  rw [hentries, hplace]
  cases hfind : names.zipIdx.find? fun e => e.1 = name with
  | none => rfl
  | some e =>
    obtain rfl : e.1 = name := by simpa using List.find?_some hfind
    rfl

/-- **The first entry with a name** has the index that is looked up. -/
theorem find?_entriesOf_eq_lookup (bitAt : Nat → Option Nat) {names : List String}
    (hlen : names.length ≤ 2 ^ 32) (name : String) :
    (entriesOf bitAt names).find? (·.name = name) =
      ((indexNames names).find? name).map fun w => ⟨w.toNat, name, bitAt w.toNat⟩ := by
  rw [find?_entriesOf, find?_indexNames]
  cases hplace : names.idxOf? name with
  | none => rfl
  | some i =>
    obtain ⟨hlt, -⟩ := List.idxOf?_eq_some_iff.1 hplace
    have hword : (UInt32.ofNat i).toNat = i :=
      UInt32.toNat_ofNat_of_lt' (Nat.lt_of_lt_of_le hlt hlen)
    simp [hword]

namespace Legend

theorem map_ofKindText?_kindEntries (l : Legend) :
    l.kindEntries.map LegendEntry.ofKindText? = (entriesOf (fun _ => none) l.kinds).map some := by
  rw [kindEntries, entriesOf, List.map_map, List.map_map]
  exact List.map_congr_left fun e _ => ofKindText?_entryText e.2 e.1

theorem map_ofModifierText?_modifierText {names : List String} (h : names.length ≤ 32) :
    (names.zipIdx.map fun e => modifierText e.2 e.1).map LegendEntry.ofModifierText? =
      (entriesOf (fun i => some (bitNumber i)) names).map some := by
  rw [entriesOf, List.map_map, List.map_map]
  refine List.map_congr_left fun e he => ofModifierText?_modifierText ?_ e.1
  exact Nat.lt_of_lt_of_le (List.snd_lt_of_mem_zipIdx he) (by omega)

theorem nodup_bit_entriesOf {names : List String} (h : names.length ≤ 32) :
    ((entriesOf (fun i => some (bitNumber i)) names).map (·.bit)).Nodup := by
  have hplaces : (entriesOf (fun i => some (bitNumber i)) names).map (·.bit) =
      (List.range names.length).map fun i => some (bitNumber i) := by
    rw [entriesOf, List.map_map, List.range_eq_range', ← List.zipIdx_map_snd 0 names, List.map_map]
    rfl
  rw [hplaces]
  refine List.Nodup.map_on (fun i hi j hj hij => ?_) List.nodup_range
  have hi := List.mem_range.1 hi
  have hj := List.mem_range.1 hj
  exact bitNumber_inj (by omega) (by omega) (Option.some.inj hij)

theorem encodeModifiers_singleton (l : Legend) (m : Modifier) :
    l.encodeModifiers [m] = l.encodeModifier m := by
  rw [encodeModifiers, addModifiers]
  cases l.encodeModifier m with
  | error e => rfl
  | ok w => simp [bind, Except.bind, addModifiers]

variable {modifiers : List String}

/-- The bit of the first entry with the name of a modifier is what the modifier is encoded by. -/
theorem encodeModifiers_eq_ok_iff_find?_entriesOf (kinds : List String)
    (hmodifiers : modifiers.length ≤ 32) (m : Modifier) (bits : UInt32) :
    (ofNames kinds modifiers).encodeModifiers [m] = .ok bits ↔
      ((entriesOf (fun i => some (bitNumber i)) modifiers).find? (·.name = m.name)).bind (·.bit) =
        some bits.toNat := by
  have hlen : modifiers.length ≤ 2 ^ 32 := by omega
  rw [find?_entriesOf_eq_lookup _ hlen, encodeModifiers_singleton, encodeModifier, modifierIndex?,
    ofNames]
  cases hindex : (indexNames modifiers).find? m.name with
  | none => simp
  | some w =>
    obtain ⟨hplace, -⟩ := (find?_indexNames_eq_some_iff hlen).1 hindex
    obtain ⟨hlt, -⟩ := List.getElem?_eq_some_iff.1 hplace
    simp only [bit_of_lt (Nat.lt_of_lt_of_le hlt hmodifiers), Except.ok.injEq, Option.map_some,
      Option.bind_some, Option.some.injEq, bitNumber, UInt32.toNat_inj]

/-- **The printed legend agrees with the encoder.** A legend fails to be printed exactly if it has
more than 32 modifiers. Otherwise each list is printed entry by entry, in order, and an entry says
the name and its place. The first entry with a name has the index that is looked up for the name,
and for a modifier also the bit at that index, which is what the modifier alone is encoded by. No
two entries have the same bit. -/
theorem printed_entries_agree (kinds modifiers : List String) (hkinds : kinds.length < 2 ^ 32)
    (hmodifiers : modifiers.length < 2 ^ 32) :
    let l : Legend := ofNames kinds modifiers
    (∀ e, l.render = .error e ↔ e = .bitOutOfRange ∧ 32 < modifiers.length) ∧
      (modifiers.length ≤ 32 → ∃ (kindTexts modifierTexts : List String)
          (kindEntries modifierEntries : List LegendEntry),
        l.render = .ok ("Token types:\n" ++ String.join (kindTexts.map (· ++ "\n")) ++
          "\nToken modifiers:\n" ++ String.join (modifierTexts.map (· ++ "\n"))) ∧
        kindTexts.map LegendEntry.ofKindText? = kindEntries.map some ∧
        modifierTexts.map LegendEntry.ofModifierText? = modifierEntries.map some ∧
        kindEntries.map (fun e => (e.name, e.index)) = kinds.zipIdx ∧
        modifierEntries.map (fun e => (e.name, e.index)) = modifiers.zipIdx ∧
        (∀ name, (kindEntries.find? (·.name = name)).map (·.index) =
          (l.kindIndex? name).map (·.toNat)) ∧
        (∀ name, (modifierEntries.find? (·.name = name)).map (fun e => (e.index, e.bit)) =
          (l.modifierIndex? name).map fun w => (w.toNat, some ((1 : UInt32) <<< w).toNat)) ∧
        (∀ (m : Modifier) bits, l.encodeModifiers [m] = .ok bits ↔
          (modifierEntries.find? (·.name = m.name)).bind (·.bit) = some bits.toNat) ∧
        (modifierEntries.map (·.bit)).Nodup) := by
  intro l
  have hkinds := Nat.le_of_lt hkinds
  have hmodifiers := Nat.le_of_lt hmodifiers
  refine ⟨fun e => render_eq_error_iff, fun hbits => ?_⟩
  refine ⟨l.kindEntries, modifiers.zipIdx.map fun e => modifierText e.2 e.1,
    entriesOf (fun _ => none) kinds, entriesOf (fun i => some (bitNumber i)) modifiers,
    ?_, ?_, ?_, ?_, ?_, ?_, ?_, ?_, ?_⟩
  · exact render_of_le hbits
  · exact map_ofKindText?_kindEntries l
  · exact map_ofModifierText?_modifierText hbits
  · exact map_name_index_entriesOf _ kinds
  · exact map_name_index_entriesOf _ modifiers
  · intro name
    rw [find?_entriesOf_eq_lookup _ hkinds, Option.map_map]
    rfl
  · intro name
    rw [find?_entriesOf_eq_lookup _ hmodifiers, Option.map_map]
    simp only [Function.comp_def, bitNumber, UInt32.ofNat_toNat]
    rfl
  · exact encodeModifiers_eq_ok_iff_find?_entriesOf kinds hbits
  · exact nodup_bit_entriesOf hbits

/-- Repeated names have an entry at each of their places, and the first one is looked up. -/
theorem printed_entries_agree_repeatedNames :
    let modifiers := ["static", "async", "static", "readonly"]
    ["macro", "macro"].length < 2 ^ 32 ∧ modifiers.length < 2 ^ 32 ∧
      ∃ entries : List LegendEntry,
        entries.map (fun e => (e.name, e.index)) = modifiers.zipIdx ∧
        (entries.find? (·.name = "static")).map (fun e => (e.index, e.bit)) = some (0, some 1) ∧
        (entries.find? (·.name = "readonly")).map (fun e => (e.index, e.bit)) = some (3, some 8) ∧
        (entries.map (·.bit)).Nodup := by
  intro modifiers
  have hkinds : ["macro", "macro"].length < 2 ^ 32 := by decide
  have hmodifiers : modifiers.length < 2 ^ 32 := by decide
  obtain ⟨-, hprinted⟩ := printed_entries_agree ["macro", "macro"] modifiers hkinds hmodifiers
  obtain ⟨-, -, -, entries, -, -, -, -, hplaces, -, hfirst, -, hdistinct⟩ :=
    hprinted (by decide)
  exact ⟨hkinds, hmodifiers, entries, hplaces, (hfirst "static").trans (by decide),
    (hfirst "readonly").trans (by decide), hdistinct⟩

end Legend

end CwebHighlight
