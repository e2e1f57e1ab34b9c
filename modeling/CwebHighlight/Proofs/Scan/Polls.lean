import CwebHighlight.Proofs.Scan.Cancellation
import CwebHighlight.Proofs.Scan.Loop

/-!
# How often a scan polls

A scan that nobody stops polls once for every line, and once more for every line that ends program
text (`codeExits`). Program text that ends was entered at a line of its own before, which costs one
poll only, so there are at most half as many of these lines as there are lines (`codeExits_le`).

**A stopped scan** polls up to the first active answer and no further, unless it comes to its end
before (`polls_of_firstAt`). Nothing it gives depends on what the signal would answer after that
(`scanFrom_eq_of_firstAt`).

**Thresholds.** A signal that is silent for one poll more lets the scan complete at most one line
more, since every line costs a poll, and a line gives at most one token.

Main result: `polls_exact`.
-/

namespace CwebHighlight

/-! ## All polls -/

/-- The number of lines that open a section and are reached in code mode. -/
def codeExits (lines : List (List Char)) : Nat :=
  (List.range lines.length).countP fun i => InCode lines i ∧ ∃ l ∈ lines[i]?, Opens l

theorem pollsBefore_succ (lines : List (List Char)) (c : Nat) :
    pollsBefore lines (c + 1) = pollsBefore lines c + lineCost lines c := by
  simp [pollsBefore, List.range_succ]

theorem one_le_lineCost (lines : List (List Char)) (i : Nat) : 1 ≤ lineCost lines i := by
  unfold lineCost
  split <;> decide

theorem pollsBefore_eq (lines : List (List Char)) (c : Nat) :
    pollsBefore lines c =
      c + (List.range c).countP fun i => InCode lines i ∧ ∃ l ∈ lines[i]?, Opens l := by
  induction c with
  | zero => rfl
  | succ c ih =>
    rw [pollsBefore_succ, ih, List.range_succ, List.countP_append, List.countP_singleton, lineCost]
    by_cases h : InCode lines c ∧ ∃ l ∈ lines[c]?, Opens l
    · rw [if_pos h, if_pos (decide_eq_true h)]
      omega
    · rw [if_neg h, if_neg (by simpa using h)]
      omega

theorem costs_eq (lines : List (List Char)) :
    Mode.tex.costs lines = lines.length + codeExits lines := by
  have hcosts := costs_take_eq_pollsBefore (Nat.le_refl lines.length)
  rw [List.take_length] at hcosts
  rw [hcosts, pollsBefore_eq, codeExits]

/-- The second polls of lines are at most half of the lines, counting the line that entered the
program text in which the lines begin. -/
theorem two_mul_costs_le (m : Mode) (lines : List (List Char)) :
    2 * m.costs lines ≤ 3 * lines.length + m.slack := by
  induction lines generalizing m with
  | nil => exact Nat.zero_le _
  | cons line rest ih =>
    have hrest := ih (m.after line)
    have hslack := (m.after line).slack_le_one
    rw [Mode.costs, List.length_cons]
    cases m with
    | tex =>
      have hcost : Mode.tex.cost line = 1 := by simp [Mode.cost]
      rw [hcost]
      omega
    | code =>
      by_cases hs : opensSection line = true
      · -- The line takes two polls and leaves code mode.
        have hafter : (Mode.code.after line).slack = 0 := by rw [tex_of_opensSection hs]; rfl
        have hcost : Mode.code.cost line = 2 := by simp [Mode.cost, hs]
        have hcode : Mode.code.slack = 1 := rfl
        rw [hcost]
        omega
      · have hcost : Mode.code.cost line = 1 := by simp [Mode.cost, hs]
        rw [hcost]
        omega

theorem codeExits_le (lines : List (List Char)) : codeExits lines ≤ lines.length / 2 := by
  have hcosts := two_mul_costs_le .tex lines
  have htex : Mode.tex.slack = 0 := rfl
  rw [costs_eq] at hcosts
  omega

/-! ## Polls up to the first active answer -/

/-- The signal is active at poll `n` for the first time. -/
structure Signal.FirstAt (s : Signal) (n : Nat) : Prop where
  silent : ∀ i < n, s i = false
  active : s n = true

theorem Signal.firstAt_after (n : Nat) : (after n).FirstAt n where
  silent i hi := by simpa [after] using hi
  active := by simp [after]

theorem Signal.exists_firstAt {s : Signal} {q : Nat} (h : s q = true) : ∃ n, s.FirstAt n := by
  have hex : ∃ n, s n = true := ⟨q, h⟩
  refine ⟨Nat.find hex, fun i hi => ?_, Nat.find_spec hex⟩
  simpa using Nat.find_min hex hi

theorem Signal.FirstAt.le {s : Signal} {n q : Nat} (h : s.FirstAt n) (hq : s q = true) : n ≤ q := by
  by_contra hlt
  rw [h.silent q (by omega)] at hq
  cases hq

theorem Signal.silentFor_after {n k : Nat} : (after n).SilentFor 0 k ↔ k ≤ n := by
  constructor
  · intro h
    by_contra hlt
    have hn := h n (by omega)
    simp [after] at hn
  · intro h q hq
    simp only [after, decide_eq_false_iff_not]
    omega

variable {signal : Signal} {m : Mode} {p k : Nat}

theorem polls_scanFrom_of_silent {lines : List (List Char)}
    (h : signal.SilentFor p (m.costs lines)) (i n : Nat) :
    (scanFrom signal m p i n lines).polls = p + m.costs lines := by
  induction lines generalizing m p i n with
  | nil => rfl
  | cons line rest ih =>
    obtain ⟨hline, hrest⟩ := Signal.silentFor_add.1 h
    rw [scanFrom_cons_of_silent hline, Reading.andThen, ih hrest, Mode.costs, Nat.add_assoc]

/-- The first active answer is given at a line: the scan ends with this poll. -/
theorem polls_scanFrom_cons_of_active {line : List Char} (hk : k < m.cost line)
    (hsilent : signal.SilentFor p k) (hactive : signal (p + k) = true) (i n : Nat)
    (rest : List (List Char)) :
    (scanFrom signal m p i n (line :: rest)).polls = p + k + 1 := by
  cases k with
  | zero => simp [scanFrom, show signal p = true from hactive, Report.cancelledAt]
  | succ k =>
    -- Only a line that ends program text takes a second poll, and none takes a third one.
    obtain ⟨rfl, hs⟩ : m = .code ∧ opensSection line = true := by
      by_contra hnot
      rw [Mode.cost, if_neg hnot] at hk
      omega
    obtain rfl : k = 0 := by
      rw [Mode.cost, if_pos ⟨rfl, hs⟩] at hk
      omega
    have hp : signal p = false := hsilent 0 Nat.one_pos
    simp [scanFrom, hp, hs, show signal (p + 1) = true from hactive, Reading.andThen,
      Report.cancelledAt]

theorem polls_scanFrom_of_active {lines : List (List Char)} (hk : k < m.costs lines)
    (hsilent : signal.SilentFor p k) (hactive : signal (p + k) = true) (i n : Nat) :
    (scanFrom signal m p i n lines).polls = p + k + 1 := by
  induction lines generalizing m p k i n with
  | nil => exact absurd hk (Nat.not_lt_zero k)
  | cons line rest ih =>
    by_cases hline : k < m.cost line
    · exact polls_scanFrom_cons_of_active hline hsilent hactive i n rest
    · obtain ⟨j, rfl⟩ : ∃ j, k = m.cost line + j := ⟨k - m.cost line, by omega⟩
      obtain ⟨hfirst, hrest⟩ := Signal.silentFor_add.1 hsilent
      have hj : j < (m.after line).costs rest := by
        rw [Mode.costs] at hk
        omega
      rw [scanFrom_cons_of_silent hfirst, Reading.andThen,
        ih hj hrest (by rwa [Nat.add_assoc])]
      omega

theorem polls_of_firstAt {n : Nat} (h : signal.FirstAt n) (text : List Char) :
    (scan text signal).polls = min (n + 1) (Mode.tex.costs (splitLines text)) := by
  have hsilent : ∀ k ≤ n, signal.SilentFor 0 k := by
    intro k hk q hq
    rw [Nat.zero_add]
    exact h.silent q (by omega)
  by_cases hn : n < Mode.tex.costs (splitLines text)
  · have hactive : signal (0 + n) = true := by rw [Nat.zero_add, h.active]
    rw [scan, polls_scanFrom_of_active hn (hsilent n (Nat.le_refl n)) hactive]
    omega
  · rw [scan, polls_scanFrom_of_silent (hsilent _ (by omega))]
    omega

/-- A scan is the same under all signals that are active at the same poll for the first time. -/
theorem scanFrom_eq_of_firstAt {s t : Signal} {N : Nat} (hs : s.FirstAt N) (ht : t.FirstAt N)
    (hp : p ≤ N) (i n : Nat) (lines : List (List Char)) :
    scanFrom s m p i n lines = scanFrom t m p i n lines := by
  have hagree : ∀ q ≤ N, s q = t q := by
    intro q hq
    by_cases hqN : q = N
    · rw [hqN, hs.active, ht.active]
    · rw [hs.silent q (by omega), ht.silent q (by omega)]
  have hlt : ∀ q ≤ N, t q = false → q + 1 ≤ N := by
    intro q hq hsilent
    by_contra hqN
    obtain rfl : q = N := by omega
    rw [ht.active] at hsilent
    cases hsilent
  induction lines generalizing m p i n with
  | nil => rfl
  | cons line rest ih =>
    cases hpoll : t p with
    | true => simp [scanFrom, hagree p hp, hpoll]
    | false =>
      have hnext := hlt p hp hpoll
      cases m with
      | tex => simp [scanFrom, hagree p hp, hpoll, ih hnext]
      | code =>
        cases hopens : opensSection line with
        | false => simp [scanFrom, hagree p hp, hpoll, hopens, ih hnext]
        | true =>
          cases hsecond : t (p + 1) with
          | true => simp [scanFrom, hagree p hp, hpoll, hopens, hagree (p + 1) hnext, hsecond]
          | false =>
            simp [scanFrom, hagree p hp, hpoll, hopens, hagree (p + 1) hnext, hsecond,
              ih (hlt (p + 1) hnext hsecond)]

/-! ## Thresholds -/

theorem le_completed_after_iff {lines : List (List Char)} {N c : Nat} (hc : c ≤ lines.length) :
    c ≤ completed (.after N) .tex 0 lines ↔ pollsBefore lines c ≤ N := by
  rw [le_completed_iff hc, costs_take_eq_pollsBefore hc, Signal.silentFor_after]

theorem completed_after_zero (lines : List (List Char)) :
    completed (.after 0) .tex 0 lines = 0 := by
  have hpolls := (le_completed_after_iff (completed_le_length _ _ _ _)).1
    (Nat.le_refl (completed (.after 0) .tex 0 lines))
  rw [pollsBefore_eq] at hpolls
  omega

theorem completed_after_costs (lines : List (List Char)) :
    completed (.after (lines.length + codeExits lines)) .tex 0 lines = lines.length := by
  refine Nat.le_antisymm (completed_le_length _ _ _ _) ?_
  rw [le_completed_after_iff (Nat.le_refl _), pollsBefore_eq, codeExits]

theorem completed_after_succ (lines : List (List Char)) (N : Nat) :
    completed (.after (N + 1)) .tex 0 lines = completed (.after N) .tex 0 lines ∨
      completed (.after (N + 1)) .tex 0 lines = completed (.after N) .tex 0 lines + 1 := by
  have hle := completed_le_length (.after N) .tex 0 lines
  have hle' := completed_le_length (.after (N + 1)) .tex 0 lines
  have hmore : completed (.after N) .tex 0 lines ≤ completed (.after (N + 1)) .tex 0 lines := by
    rw [le_completed_after_iff hle]
    exact ((le_completed_after_iff hle).1 (Nat.le_refl _)).trans (Nat.le_succ N)
  have hless : completed (.after (N + 1)) .tex 0 lines ≤ completed (.after N) .tex 0 lines + 1 := by
    cases hc : completed (.after (N + 1)) .tex 0 lines with
    | zero => exact Nat.zero_le _
    | succ c =>
      -- Without its last line the scan saves a poll.
      have hpolls : pollsBefore lines (c + 1) ≤ N + 1 :=
        (le_completed_after_iff (hc ▸ hle')).1 hc.ge
      have hcost := one_le_lineCost lines c
      rw [pollsBefore_succ] at hpolls
      exact Nat.succ_le_succ ((le_completed_after_iff (by omega)).2 (by omega))
  omega

theorem length_tokens_read_le (m : Mode) (i : Nat) (line : List Char) :
    (m.read i line).tokens.length ≤ 1 := by
  rcases tokens_read m i line with h | ⟨length, kind, h⟩ <;> rw [h] <;> simp

/-- One more line gives no token or one. -/
theorem length_tokensFrom_take_succ (m : Mode) (i c : Nat) (lines : List (List Char)) :
    (tokensFrom m i (lines.take (c + 1))).length = (tokensFrom m i (lines.take c)).length ∨
      (tokensFrom m i (lines.take (c + 1))).length =
        (tokensFrom m i (lines.take c)).length + 1 := by
  rw [List.take_add_one, tokensFrom_append, List.length_append]
  cases lines[c]? with
  | none => exact Or.inl rfl
  | some line =>
    have hread := length_tokens_read_le (m.afterAll (lines.take c)) (i + (lines.take c).length) line
    simp only [Option.toList_some, tokensFrom, List.append_nil]
    omega

/-- **Termination and polls of the scan.** The loop of a scan ends, after as many turns as polls.
With a signal that is never active it polls once for each line and once more for each section that
is reached in code mode, which is at most half as many. A signal that is active for the first time
at poll `N` ends it with this poll, if the scan comes to it, and no other answer of the signal
matters. Each further silent poll gives at most one token more. -/
theorem polls_exact (text : List Char) :
    let n := (splitLines text).length
    let T := n + codeExits (splitLines text)
    let tokens (N : Nat) := (classify text (.after N)).length
    (∀ signal : Signal, ∃ last,
        (ScanLoop.start text).turns signal (scan text signal).polls = some last ∧
          last.turn? signal = none ∧ last.report = scan text signal) ∧
      (∀ signal : Signal, (∀ i, signal i = false) → (scan text signal).polls = T) ∧
      (n ≤ T ∧ T ≤ n + n / 2) ∧
      (∀ (signal : Signal) (N : Nat), signal.FirstAt N →
        (scan text signal).polls = min (N + 1) T) ∧
      (∀ (signal : Signal) (q : Nat), q < (scan text signal).polls → signal q = true →
        q + 1 = (scan text signal).polls) ∧
      (∀ (s t : Signal) (N : Nat), s.FirstAt N → t.FirstAt N → scan text s = scan text t) ∧
      tokens 0 = 0 ∧ tokens T = (classifyAll text).length ∧
      ∀ N, tokens (N + 1) = tokens N ∨ tokens (N + 1) = tokens N + 1 := by
  intro n T tokens
  have hT : Mode.tex.costs (splitLines text) = T := costs_eq (splitLines text)
  have hexits := codeExits_le (splitLines text)
  have hfirst : ∀ (signal : Signal) (N : Nat), signal.FirstAt N →
      (scan text signal).polls = min (N + 1) T := by
    intro signal N h
    rw [polls_of_firstAt h, hT]
  refine ⟨fun signal => ScanLoop.ends text signal, fun signal hsilent => ?_, ⟨by omega, by omega⟩,
    hfirst, fun signal q hq hactive => ?_, fun s t N hs ht => ?_, ?_, ?_, fun N => ?_⟩
  · rw [scan, polls_scanFrom_of_silent fun q _ => hsilent _, hT, Nat.zero_add]
  · obtain ⟨N, hN⟩ := Signal.exists_firstAt hactive
    rw [hfirst signal N hN] at hq ⊢
    have hNq : N ≤ q := by
      by_contra hlt
      rw [hN.silent q (by omega)] at hactive
      cases hactive
    omega
  · exact scanFrom_eq_of_firstAt hs ht (Nat.zero_le N) 0 0 (splitLines text)
  · simp only [tokens, classify_eq_tokensFrom, completed_after_zero]
    rfl
  · simp only [tokens, T, n, classify_eq_tokensFrom, completed_after_costs, List.take_length,
      classifyAll_eq_tokensFrom]
  · simp only [tokens, classify_eq_tokensFrom]
    rcases completed_after_succ (splitLines text) N with h | h
    · exact Or.inl (by rw [h])
    · rw [h]
      exact length_tokensFrom_take_succ .tex 0 _ (splitLines text)

/-- Two lines, of which the second one ends the program text that the first one begins. The signal
is active only at the second poll of this line. -/
theorem polls_exact_activeOnce :
    (Signal.only 2).FirstAt 2 ∧ codeExits (splitLines ['@', 'c', '\n', '@', ' ', 'x']) = 1 ∧
      (scan ['@', 'c', '\n', '@', ' ', 'x'] (.only 2)).polls = min (2 + 1) (2 + 1) ∧
      scan ['@', 'c', '\n', '@', ' ', 'x'] (.only 2) =
        scan ['@', 'c', '\n', '@', ' ', 'x'] (.after 2) ∧
      (classify ['@', 'c', '\n', '@', ' ', 'x'] (.after 0)).length = 0 := by
  have honce : (Signal.only 2).FirstAt 2 := ⟨by decide, by decide⟩
  have hexits : codeExits (splitLines ['@', 'c', '\n', '@', ' ', 'x']) = 1 := by decide
  obtain ⟨-, -, -, hpolls, -, hsame, hzero, -, -⟩ := polls_exact ['@', 'c', '\n', '@', ' ', 'x']
  refine ⟨honce, hexits, ?_, hsame _ _ 2 honce (Signal.firstAt_after 2), hzero⟩
  rw [hpolls (.only 2) 2 honce, hexits]
  decide

end CwebHighlight
