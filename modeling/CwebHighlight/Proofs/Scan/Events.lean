import CwebHighlight.Proofs.Scan.Polls

/-!
# What the events of a scan tell

The scan logs every token, every change of its mode and its cancellation. The order in which it does
so is a grammar (`ScanLog`): a token that enters program text is followed by the change of mode, and
a change that leaves program text by the token of the same line, or by the end of the scan.

**The grammar holds** (`scanLog_scanFrom`). It is followed line by line, for every signal.

**What follows from it.** Each statement about the order of events is an induction over the grammar:
the tokens are those that are returned, the changes of mode alternate at increasing lines, and a
cancellation is the last event.

**Cancellation.** Whether the scan is cancelled, and at which line, is not a matter of order. It is
read off the number of completed lines (`exists_cancelled_mem_scanFrom_iff`).

Main result: `events_exact`.
-/

namespace CwebHighlight

/-! ## Kinds of events -/

namespace ScanEvent

/-- The token that an event reports. -/
def token? : ScanEvent → Option Token
  | .token t => some t
  | _ => none

def isModeChange : ScanEvent → Bool
  | .enteringCode _ => true
  | .leavingCode _ => true
  | _ => false

end ScanEvent

/-- Changes of mode at the given lines, one after the other, the first of them out of mode `m`. -/
def modeChanges : Mode → List Nat → List ScanEvent
  | _, [] => []
  | .tex, i :: rest => .enteringCode i :: modeChanges .code rest
  | .code, i :: rest => .leavingCode i :: modeChanges .tex rest

/-- The event at place `k` reports the token of line `j`. Tokens keep their lines in 32 bits. -/
def TokenAt (es : List ScanEvent) (k j : Nat) : Prop :=
  ∃ t, es[k]? = some (.token t) ∧ t.line = UInt32.ofNat j

/-- Only tokens are logged at the level `TRACE`. -/
theorem filter_trace_map_logEntry (es : List ScanEvent) :
    (es.map (·.logEntry)).filter (·.level = .trace) =
      (es.filterMap ScanEvent.token?).map fun t => ⟨.trace, "token", [("token", t.logText)]⟩ := by
  induction es with
  | nil => rfl
  | cons e es ih =>
    cases e with
    | token t => exact congrArg (_ :: ·) ih
    | enteringCode i => exact ih
    | leavingCode i => exact ih
    | cancelled i n => exact ih

/-! ## The grammar -/

/-- What a scan returns and logs that is in mode `m` at line `i` and has `n` tokens so far. -/
inductive ScanLog : Mode → Nat → Nat → List Token → List ScanEvent → Prop
  | ended (m : Mode) (i n : Nat) : ScanLog m i n [] []
  | cancelled (m : Mode) (i n : Nat) : ScanLog m i n [] [.cancelled i n]
  | cancelledLeaving (i n : Nat) : ScanLog .code i n [] [.leavingCode i, .cancelled i n]
  | pass {m : Mode} {i n : Nat} {ts : List Token} {es : List ScanEvent}
      (rest : ScanLog m (i + 1) n ts es) : ScanLog m i n ts es
  | token {i n : Nat} {t : Token} {ts : List Token} {es : List ScanEvent}
      (ht : t.line = UInt32.ofNat i) (rest : ScanLog .tex (i + 1) (n + 1) ts es) :
      ScanLog .tex i n (t :: ts) (.token t :: es)
  | enter {i n : Nat} {t : Token} {ts : List Token} {es : List ScanEvent}
      (ht : t.line = UInt32.ofNat i) (rest : ScanLog .code (i + 1) (n + 1) ts es) :
      ScanLog .tex i n (t :: ts) (.token t :: .enteringCode i :: es)
  | leave {i n : Nat} {t : Token} {ts : List Token} {es : List ScanEvent}
      (ht : t.line = UInt32.ofNat i) (rest : ScanLog .tex (i + 1) (n + 1) ts es) :
      ScanLog .code i n (t :: ts) (.leavingCode i :: .token t :: es)

/-- A line read in TeX mode gives a token and stays in the mode, or it does not open a section, and
gives a token and enters program text or is prose. -/
theorem ofTexLine_cases (i : Nat) (line : List Char) :
    (∃ length kind, Reading.ofTexLine i line = .ofSpan i length kind .tex) ∨
      opensSection line = false ∧ ((∃ length kind, Reading.ofTexLine i line =
        .ofSpan i length kind .code) ∨ Reading.ofTexLine i line = .prose) := by
  unfold Reading.ofTexLine opensSection
  by_cases hc : isComment line = true
  · exact Or.inl ⟨_, _, if_pos hc⟩
  · by_cases ht : opensTitledSection line = true
    · exact Or.inl ⟨_, _, by rw [if_neg hc, if_pos ht]⟩
    · by_cases hp : opensPlainSection line = true
      · exact Or.inl ⟨_, _, by rw [if_neg hc, if_neg ht, if_pos hp]⟩
      · refine Or.inr ⟨by simp [ht, hp], ?_⟩
        rw [if_neg hc, if_neg ht, if_neg hp]
        split
        · exact Or.inl ⟨_, _, rfl⟩
        · exact Or.inr rfl

variable {i n : Nat} {line : List Char} {rest : Report}

theorem scanLog_ofTexLine
    (h : ScanLog (Reading.ofTexLine i line).next (i + 1)
      (n + (Reading.ofTexLine i line).tokens.length) rest.tokens rest.events) :
    ScanLog .tex i n ((Reading.ofTexLine i line).andThen rest).tokens
      ((Reading.ofTexLine i line).andThen rest).events := by
  rcases ofTexLine_cases i line with ⟨length, kind, hr⟩ | ⟨-, ⟨length, kind, hr⟩ | hr⟩
  · rw [hr] at h ⊢
    exact .token rfl h
  · rw [hr] at h ⊢
    exact .enter rfl h
  · rw [hr] at h ⊢
    exact .pass h

theorem scanLog_ofSectionLine (hopens : opensSection line = true)
    (h : ScanLog (Reading.ofSectionLine i line).next (i + 1)
      (n + (Reading.ofSectionLine i line).tokens.length) rest.tokens rest.events) :
    ScanLog .code i n ((Reading.ofSectionLine i line).andThen rest).tokens
      ((Reading.ofSectionLine i line).andThen rest).events := by
  rcases ofTexLine_cases i line with ⟨length, kind, hr⟩ | ⟨hnot, -⟩
  · rw [Reading.ofSectionLine, hr] at h ⊢
    exact .leave rfl h
  · rw [hnot] at hopens
    cases hopens

/-- **Every scan follows the grammar.** -/
theorem scanLog_scanFrom (signal : Signal) (m : Mode) (p i n : Nat) (lines : List (List Char)) :
    ScanLog m i n (scanFrom signal m p i n lines).tokens
      (scanFrom signal m p i n lines).events := by
  induction lines generalizing m p i n with
  | nil => exact .ended m i n
  | cons line rest ih =>
    unfold scanFrom
    split
    · exact .cancelled m i n
    · cases m with
      | tex => exact scanLog_ofTexLine (ih _ _ _ _)
      | code =>
        by_cases hopens : opensSection line = true
        · simp only [hopens, if_true]
          -- The second poll of the line comes after the change of mode has been logged.
          split
          · exact .cancelledLeaving i n
          · exact scanLog_ofSectionLine hopens (ih _ _ _ _)
        · simp only [hopens]
          exact .pass (ih _ _ _ _)

/-! ## The order of events -/

namespace ScanLog

variable {m : Mode} {i n j k c : Nat} {ts : List Token} {es : List ScanEvent}

theorem filterMap_token? (h : ScanLog m i n ts es) : es.filterMap ScanEvent.token? = ts := by
  induction h with
  | ended m i n => rfl
  | cancelled m i n => rfl
  | cancelledLeaving i n => rfl
  | pass rest ih => exact ih
  | token ht rest ih => exact congrArg (_ :: ·) ih
  | enter ht rest ih => exact congrArg (_ :: ·) ih
  | leave ht rest ih => exact congrArg (_ :: ·) ih

/-- **The changes of mode alternate**, at increasing lines. -/
theorem filter_isModeChange (h : ScanLog m i n ts es) :
    ∃ lines : List Nat, (∀ j ∈ lines, i ≤ j) ∧ lines.Pairwise (· < ·) ∧
      es.filter (·.isModeChange) = modeChanges m lines := by
  induction h with
  | ended m i n => exact ⟨[], by simp, List.Pairwise.nil, rfl⟩
  | cancelled m i n => exact ⟨[], by simp, List.Pairwise.nil, rfl⟩
  | cancelledLeaving i n => exact ⟨[i], by simp, List.pairwise_singleton _ _, rfl⟩
  | pass rest ih =>
    obtain ⟨lines, hle, hlt, hlines⟩ := ih
    exact ⟨lines, fun j hj => Nat.le_of_succ_le (hle j hj), hlt, hlines⟩
  | token ht rest ih =>
    obtain ⟨lines, hle, hlt, hlines⟩ := ih
    exact ⟨lines, fun j hj => Nat.le_of_succ_le (hle j hj), hlt, hlines⟩
  | @enter i n t ts es ht rest ih =>
    obtain ⟨lines, hle, hlt, hlines⟩ := ih
    refine ⟨i :: lines, ?_, List.pairwise_cons.2 ⟨hle, hlt⟩, ?_⟩
    · rintro j (_ | ⟨_, hj⟩)
      · exact Nat.le_refl i
      · exact Nat.le_of_succ_le (hle j hj)
    · rw [modeChanges, ← hlines]
      rfl
  | @leave i n t ts es ht rest ih =>
    obtain ⟨lines, hle, hlt, hlines⟩ := ih
    refine ⟨i :: lines, ?_, List.pairwise_cons.2 ⟨hle, hlt⟩, ?_⟩
    · rintro j (_ | ⟨_, hj⟩)
      · exact Nat.le_refl i
      · exact Nat.le_of_succ_le (hle j hj)
    · rw [modeChanges, ← hlines]
      rfl

theorem tokenAt_of_entering (h : ScanLog m i n ts es) (hk : es[k]? = some (.enteringCode j)) :
    ∃ l, k = l + 1 ∧ TokenAt es l j := by
  induction h generalizing k with
  | ended m i n => simp at hk
  | cancelled m i n => cases k <;> simp at hk
  | cancelledLeaving i n => rcases k with _ | _ | k <;> simp at hk
  | pass rest ih => exact ih hk
  | @token i n t ts es ht rest ih =>
    cases k with
    | zero => simp at hk
    | succ k =>
      obtain ⟨l, rfl, hl⟩ := ih hk
      exact ⟨l + 1, rfl, hl⟩
  | @enter i n t ts es ht rest ih =>
    rcases k with _ | _ | k
    · simp at hk
    · obtain rfl : i = j := by simpa using hk
      exact ⟨0, rfl, t, rfl, ht⟩
    · obtain ⟨l, rfl, hl⟩ := ih hk
      exact ⟨l + 2, rfl, hl⟩
  | @leave i n t ts es ht rest ih =>
    rcases k with _ | _ | k
    · simp at hk
    · simp at hk
    · obtain ⟨l, rfl, hl⟩ := ih hk
      exact ⟨l + 2, rfl, hl⟩

theorem follows_of_leaving (h : ScanLog m i n ts es) (hk : es[k]? = some (.leavingCode j)) :
    TokenAt es (k + 1) j ∨ ∃ c, es[k + 1]? = some (.cancelled j c) := by
  induction h generalizing k with
  | ended m i n => simp at hk
  | cancelled m i n => cases k <;> simp at hk
  | cancelledLeaving i n =>
    rcases k with _ | _ | k
    · obtain rfl : i = j := by simpa using hk
      exact Or.inr ⟨n, rfl⟩
    · simp at hk
    · simp at hk
  | pass rest ih => exact ih hk
  | token ht rest ih =>
    cases k with
    | zero => simp at hk
    | succ k => exact ih hk
  | enter ht rest ih =>
    rcases k with _ | _ | k
    · simp at hk
    · simp at hk
    · exact ih hk
  | @leave i n t ts es ht rest ih =>
    rcases k with _ | _ | k
    · obtain rfl : i = j := by simpa using hk
      exact Or.inl ⟨t, rfl, ht⟩
    · simp at hk
    · exact ih hk

theorem cancelled_last (h : ScanLog m i n ts es) (hk : es[k]? = some (.cancelled j c)) :
    k + 1 = es.length ∧ c = n + ts.length := by
  induction h generalizing k with
  | ended m i n => simp at hk
  | cancelled m i n =>
    cases k with
    | zero =>
      obtain ⟨-, rfl⟩ : i = j ∧ n = c := by simpa using hk
      exact ⟨rfl, rfl⟩
    | succ k => simp at hk
  | cancelledLeaving i n =>
    rcases k with _ | _ | k
    · simp at hk
    · obtain ⟨-, rfl⟩ : i = j ∧ n = c := by simpa using hk
      exact ⟨rfl, rfl⟩
    · simp at hk
  | pass rest ih => exact ih hk
  | token ht rest ih =>
    cases k with
    | zero => simp at hk
    | succ k =>
      obtain ⟨hlen, hc⟩ := ih hk
      simp only [List.length_cons]
      omega
  | enter ht rest ih =>
    rcases k with _ | _ | k
    · simp at hk
    · simp at hk
    · obtain ⟨hlen, hc⟩ := ih hk
      simp only [List.length_cons]
      omega
  | leave ht rest ih =>
    rcases k with _ | _ | k
    · simp at hk
    · simp at hk
    · obtain ⟨hlen, hc⟩ := ih hk
      simp only [List.length_cons]
      omega

end ScanLog

/-! ## Cancellation -/

section

variable {signal : Signal} {m : Mode} {p j c : Nat}

theorem events_scanFrom_cons_of_active {line : List Char}
    (h : ¬ signal.SilentFor p (m.cost line)) (i n : Nat) (rest : List (List Char)) :
    (scanFrom signal m p i n (line :: rest)).events = [.cancelled i n] ∨
      (scanFrom signal m p i n (line :: rest)).events = [.leavingCode i, .cancelled i n] := by
  by_cases hp : signal p = true
  · exact Or.inl (by simp [scanFrom, hp, Report.cancelledAt])
  · by_cases hcode : m = .code ∧ opensSection line = true
    · obtain ⟨rfl, hs⟩ := hcode
      have hp' : signal (p + 1) = true := by
        simpa [Mode.cost, hs, Signal.silentFor_two, hp] using h
      exact Or.inr (by simp [scanFrom, hp, hp', hs, Reading.andThen, Report.cancelledAt])
    · rw [Mode.cost, if_neg hcode, Signal.silentFor_one] at h
      exact absurd (by simpa using h) hp

theorem cancelled_notMem_read (m : Mode) (i : Nat) (line : List Char) :
    .cancelled j c ∉ (m.read i line).events := by
  have htex : .cancelled j c ∉ (Reading.ofTexLine i line).events := by
    rcases ofTexLine_cases i line with ⟨length, kind, hr⟩ | ⟨-, ⟨length, kind, hr⟩ | hr⟩ <;>
      simp [hr, Reading.ofSpan, Reading.prose]
  cases m with
  | tex => exact htex
  | code =>
    by_cases hs : opensSection line = true
    · rw [Mode.read, if_pos hs]
      simpa [Reading.ofSectionLine] using htex
    · rw [Mode.read, if_neg hs]
      exact List.not_mem_nil

/-- **A cancellation names the line at which it happens**, the first one that is not completed. -/
theorem exists_cancelled_mem_scanFrom_iff {i n : Nat} {lines : List (List Char)} :
    (∃ c, .cancelled j c ∈ (scanFrom signal m p i n lines).events) ↔
      completed signal m p lines < lines.length ∧ j = i + completed signal m p lines := by
  induction lines generalizing m p i n with
  | nil => simp [scanFrom]
  | cons line rest ih =>
    by_cases h : signal.SilentFor p (m.cost line)
    · have hread : ∀ c, .cancelled j c ∉ (m.read i line).events :=
        fun c => cancelled_notMem_read m i line
      simp only [scanFrom_cons_of_silent h, completed, if_pos h, Reading.andThen, List.mem_append,
        hread, false_or, ih, List.length_cons]
      omega
    · rw [completed, if_neg h]
      rcases events_scanFrom_cons_of_active h i n rest with hevents | hevents <;>
        simp [hevents]

end

theorem completed_lt_iff {signal : Signal} (text : List Char) :
    completed signal .tex 0 (splitLines text) < (splitLines text).length ↔
      ∃ q < (scan text signal).polls, signal q = true := by
  have hle : (splitLines text).length ≤ completed signal .tex 0 (splitLines text) ↔
      signal.SilentFor 0 (Mode.tex.costs (splitLines text)) := by
    rw [le_completed_iff (Nat.le_refl _), List.take_length]
  constructor
  · intro hlt
    -- An active poll before the costs of all lines is not yet one that the scan reaches. The first
    -- one is.
    have hactive : ¬ signal.SilentFor 0 (Mode.tex.costs (splitLines text)) :=
      fun h => absurd (hle.2 h) (by omega)
    obtain ⟨q, hq, hqs⟩ : ∃ q < Mode.tex.costs (splitLines text), signal q = true := by
      simpa [Signal.SilentFor] using hactive
    obtain ⟨N, hN⟩ := Signal.exists_firstAt hqs
    have hNq := hN.le hqs
    refine ⟨N, ?_, hN.active⟩
    rw [polls_of_firstAt hN]
    omega
  · rintro ⟨q, hq, hqs⟩
    obtain ⟨N, hN⟩ := Signal.exists_firstAt hqs
    rw [polls_of_firstAt hN] at hq
    by_contra hge
    have hsilent := hle.1 (by omega) q (by omega)
    rw [Nat.zero_add, hqs] at hsilent
    cases hsilent

/-- The line of a cancellation is the first one whose polls are not all silent. -/
theorem not_completed_of_cancelled {signal : Signal} {text : List Char} {i n : Nat}
    (h : .cancelled i n ∈ (scan text signal).events) :
    i < (splitLines text).length ∧ signal.SilentFor 0 (pollsBefore (splitLines text) i) ∧
      ¬ signal.SilentFor 0 (pollsBefore (splitLines text) (i + 1)) := by
  obtain ⟨hlt, hi⟩ := exists_cancelled_mem_scanFrom_iff.1 ⟨n, h⟩
  rw [Nat.zero_add] at hi
  subst hi
  refine ⟨hlt, ?_, ?_⟩
  · rw [← costs_take_eq_pollsBefore (Nat.le_of_lt hlt), ← le_completed_iff (Nat.le_of_lt hlt)]
  · rw [← costs_take_eq_pollsBefore hlt, ← le_completed_iff hlt]
    exact Nat.not_succ_le_self _

/-- **The events of a scan account for it.** The tokens that are logged are those that are returned.
The changes of mode alternate, beginning with program text, and their lines increase; program text
is entered right after the token of the line, and after it is left comes the token of the same line
or the cancellation at it. A cancellation is logged if and only if some poll was active. It is the
last event, it counts the tokens, and its line is the first one with an active poll. -/
theorem events_exact (text : List Char) (signal : Signal) :
    let lines := splitLines text
    let events := (scan text signal).events
    let tokens := classify text signal
    (events.filterMap ScanEvent.token? = tokens ∧
      (events.map (·.logEntry)).filter (·.level = .trace) =
        tokens.map fun t => ⟨.trace, "token", [("token", t.logText)]⟩) ∧
    (∃ changed : List Nat, changed.Pairwise (· < ·) ∧
      events.filter (·.isModeChange) = modeChanges .tex changed) ∧
    (∀ k i, events[k]? = some (.enteringCode i) → ∃ l, k = l + 1 ∧ TokenAt events l i) ∧
    (∀ k i, events[k]? = some (.leavingCode i) →
      TokenAt events (k + 1) i ∨ ∃ n, events[k + 1]? = some (.cancelled i n)) ∧
    ((∃ i n, .cancelled i n ∈ events) ↔ ∃ q < (scan text signal).polls, signal q = true) ∧
    ∀ k i n, events[k]? = some (.cancelled i n) →
      k + 1 = events.length ∧ n = tokens.length ∧ i < lines.length ∧
        signal.SilentFor 0 (pollsBefore lines i) ∧
        ¬ signal.SilentFor 0 (pollsBefore lines (i + 1)) := by
  intro lines events tokens
  have hlog : ScanLog .tex 0 0 tokens events := scanLog_scanFrom signal .tex 0 0 0 lines
  have htokens : events.filterMap ScanEvent.token? = tokens := hlog.filterMap_token?
  refine ⟨⟨htokens, ?_⟩, ?_, fun k i => hlog.tokenAt_of_entering, fun k i => hlog.follows_of_leaving,
    ?_, fun k i n hk => ?_⟩
  · rw [filter_trace_map_logEntry, htokens]
  · obtain ⟨changed, -, hlt, hchanged⟩ := hlog.filter_isModeChange
    exact ⟨changed, hlt, hchanged⟩
  · rw [← completed_lt_iff]
    constructor
    · rintro ⟨i, hmem⟩
      exact (exists_cancelled_mem_scanFrom_iff.1 hmem).1
    · intro hlt
      exact ⟨_, exists_cancelled_mem_scanFrom_iff.2 ⟨hlt, rfl⟩⟩
  · obtain ⟨hlast, hn⟩ := hlog.cancelled_last hk
    exact ⟨hlast, by omega, not_completed_of_cancelled (List.mem_of_getElem? hk)⟩

/-- Program text of two lines and a section, at whose second poll the signal is active. -/
theorem events_exact_secondPoll :
    let text := ['@', 'c', '\n', 'x', '\n', '@', ' ', 'y']
    let events := (scan text (.only 3)).events
    events = [.token ⟨0, 0, 2, .keyword, []⟩, .enteringCode 0, .leavingCode 2, .cancelled 2 1] ∧
      TokenAt events 0 0 ∧ (∃ q < (scan text (.only 3)).polls, Signal.only 3 q = true) ∧
      Signal.SilentFor (.only 3) 0 (pollsBefore (splitLines text) 2) := by
  intro text events
  have hevents : events =
      [.token ⟨0, 0, 2, .keyword, []⟩, .enteringCode 0, .leavingCode 2, .cancelled 2 1] := by decide
  obtain ⟨-, -, hentering, -, hcancelled, hlast⟩ := events_exact text (.only 3)
  obtain ⟨l, hl, htoken⟩ := hentering 1 0 (by decide)
  obtain rfl : 0 = l := Nat.succ.inj hl
  exact ⟨hevents, htoken, hcancelled.1 ⟨2, 1, by decide⟩, (hlast 3 2 1 (by decide)).2.2.2.1⟩

end CwebHighlight
