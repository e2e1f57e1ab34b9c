import CwebHighlight.Proofs.Json.Reading
import CwebHighlight.Proofs.Render.Simple

/-!
# The textual formats lose nothing

From what `simple` or `json` prints the token list can be recovered: each format has a reader that
gives back exactly the tokens, with their modifiers in order and as often as they were there.

**`json`** is an indented array of objects. It is read back as these objects (`parse?_renderJson`),
and the fields of an object determine the token (`Token.ofJson?_fields`).

Main result: `renders_recoverable`.
-/

namespace CwebHighlight

/-! ## Tokens as objects -/

def Modifier.ofJson? (v : Json) : Option Modifier := v.asString?.bind ofName?

theorem Modifier.ofJson?_string (m : Modifier) : ofJson? (.string m.name) = some m := by
  rw [ofJson?, Json.asString?, Option.bind_some, m.ofName?_name]

namespace Token

/-- The fields of the object of a token, as they are written. -/
def fields (t : Token) : List (String × Json) :=
  [("line", .ofWord t.line), ("start", .ofWord t.start), ("length", .ofWord t.length),
    ("type", .string t.kind.name),
    ("modifiers", .array (t.modifiers.map fun m => .string m.name))]

theorem toJson_eq (t : Token) : t.toJson = .object t.fields := rfl

/-- The token of an object with its fields, in any order. -/
def ofJson? (v : Json) : Option Token := do
  let line ← (← v.field? "line").asWord?
  let start ← (← v.field? "start").asWord?
  let length ← (← v.field? "length").asWord?
  let kind ← TokenKind.ofName? (← (← v.field? "type").asString?)
  let modifiers ← (← (← v.field? "modifiers").asArray?).mapM Modifier.ofJson?
  return ⟨line, start, length, kind, modifiers⟩

end Token

theorem Json.asWord?_ofWord (n : UInt32) : (ofWord n).asWord? = some n := by
  have hn : (n.toNat : Int) < 0x100000000 := Int.ofNat_lt.2 n.toNat_lt
  rw [ofWord, asWord?, if_pos ⟨Int.natCast_nonneg _, hn⟩, Int.toNat_natCast, UInt32.ofNat_toNat]

/-- Items that were written one by one are read one by one. -/
theorem mapM_map_of_inverse {α β : Type} {read : β → Option α} {write : α → β}
    (h : ∀ a, read (write a) = some a) (as : List α) : (as.map write).mapM read = some as := by
  induction as with
  | nil => rfl
  | cons a as ih => rw [List.map_cons, List.mapM_cons, h, ih]; rfl

/-- **The fields** of a token determine it. -/
theorem Token.ofJson?_fields (t : Token) : ofJson? (.ofFields t.fields) = some t := by
  have hfield {key : String} {v : Json}
      (h : (t.fields.reverse.find? (·.1 == key)).map (·.2) = some v) :
      (Json.ofFields t.fields).field? key = some v :=
    (Json.field?_ofFields t.fields key).trans h
  have hmodifiers :
      (t.modifiers.map fun m => Json.string m.name).mapM Modifier.ofJson? = some t.modifiers :=
    mapM_map_of_inverse Modifier.ofJson?_string t.modifiers
  simp only [ofJson?, Option.bind_eq_bind, Option.bind_eq_some_iff]
  exact ⟨_, hfield rfl, t.line, Json.asWord?_ofWord _, _, hfield rfl, t.start,
    Json.asWord?_ofWord _, _, hfield rfl, t.length, Json.asWord?_ofWord _, _, hfield rfl, _, rfl,
    t.kind, t.kind.ofName?_name, _, hfield rfl, _, rfl, t.modifiers, hmodifiers, rfl⟩

/-! ## The array -/

theorem readable_toJson (t : Token) (depth level : Nat) :
    Json.Readable (Json.value (depth + 3)) (t.toJson.indentedAt level).toList
      (.ofFields t.fields) := by
  have hword (n : UInt32) : Json.Readable (Json.value (depth + 2))
      ((Json.ofWord n).indentedAt (level + 1)).toList (.ofWord n) :=
    Json.readable_indented_natural (Nat.lt_trans n.toNat_lt (by decide)) _
  have hmodifiers : Json.Readable (Json.value (depth + 2))
      ((Json.array (t.modifiers.map fun m => .string m.name)).indentedAt (level + 1)).toList
      (.array (t.modifiers.map fun m => .string m.name)) :=
    Json.readable_indented_array fun m _ => Json.readable_indented_string m.name _
  rw [t.toJson_eq]
  refine Json.readable_indented_object ?_
  rw [Token.fields]
  simp only [List.forall_mem_cons]
  exact ⟨hword _, hword _, hword _, Json.readable_indented_string _ _, hmodifiers, nofun⟩

theorem parse?_renderJson (tokens : List Token) :
    Json.parse? (renderJson tokens) = some (.array (tokens.map fun t => .ofFields t.fields)) :=
  Json.parse?_of_readable (Json.readable_indented_array fun t _ => readable_toJson t 124 1)

/-- The token list that a JSON text writes. -/
def jsonTokens? (text : String) : Option (List Token) := do
  (← (← Json.parse? text).asArray?).mapM Token.ofJson?

/-- **The token list is read from its objects.** -/
theorem jsonTokens?_renderJson (tokens : List Token) :
    jsonTokens? (renderJson tokens) = some tokens := by
  rw [jsonTokens?, parse?_renderJson]
  exact mapM_map_of_inverse Token.ofJson?_fields tokens

/-! ## Both formats -/

/-- **The textual formats lose nothing.** Each of them has a reader that gives back every token list
from its print, so no two token lists are printed alike. In the format `simple` the lines of the
print are those of the tokens. -/
theorem renders_recoverable :
    (∀ tokens, simpleTokens? (renderSimple tokens) = some tokens) ∧
      (∀ tokens, jsonTokens? (renderJson tokens) = some tokens) ∧
      Function.Injective renderSimple ∧ Function.Injective renderJson ∧
      ∀ tokens, splitLines (renderSimple tokens).toList =
        tokens.map (·.simpleText.toList) ++ [[]] := by
  refine ⟨simpleTokens?_renderSimple, jsonTokens?_renderJson, fun a b h => ?_, fun a b h => ?_,
    splitLines_renderSimple⟩
  · have hread := simpleTokens?_renderSimple a
    rw [h, simpleTokens?_renderSimple b] at hread
    exact (Option.some.inj hread).symm
  · have hread := jsonTokens?_renderJson a
    rw [h, jsonTokens?_renderJson b] at hread
    exact (Option.some.inj hread).symm

end CwebHighlight
