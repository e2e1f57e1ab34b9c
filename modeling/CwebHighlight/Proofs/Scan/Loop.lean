import CwebHighlight.Scan

/-!
# The scan as a loop

`scanFrom` takes a line that ends program text in one go, with both of its polls. Here the scan is a
loop that polls once in every turn, so such a line takes two turns, and the first of them leaves the
loop at the same line.

**The loop ends.** A turn that stays at its line leaves code mode, so twice the number of lines that
are left, and one more in code mode, gets smaller in every turn (`measure_turn`).

**The report** (`outcome_turn`). What the loop has given so far and what `scanFrom` gives from here
on is the same before and after a turn. So a loop that has ended has given what the scan gives, and
it has made as many turns as the scan has made polls (`ends`).
-/

namespace CwebHighlight

/-- In code mode the scan can take a step that does not pass a line. -/
def Mode.slack : Mode → Nat
  | .tex => 0
  | .code => 1

theorem Mode.slack_le_one (m : Mode) : m.slack ≤ 1 := by
  cases m <;> decide

/-- The scan between two turns: the mode, the first of the lines that are left, these lines, whether
its signal has stopped it, and what it has given so far. -/
structure ScanLoop where
  mode : Mode
  line : Nat
  left : List (List Char)
  stopped : Bool
  report : Report
  deriving DecidableEq, Repr

/-- A report with one more poll, and with what came of it. -/
def Report.polled (r : Report) (tokens : List Token) (events : List ScanEvent) : Report :=
  ⟨r.tokens ++ tokens, r.polls + 1, r.events ++ events⟩

namespace ScanLoop

def start (text : List Char) : ScanLoop := ⟨.tex, 0, splitLines text, false, ⟨[], 0, []⟩⟩

/-- One turn. There is none once the scan is stopped or no lines are left. -/
def turn? (signal : Signal) (s : ScanLoop) : Option ScanLoop :=
  match s.stopped, s.left with
  | false, text :: rest =>
    if signal s.report.polls then
      let stop : ScanEvent := .cancelled s.line s.report.tokens.length
      some { s with stopped := true, report := s.report.polled [] [stop] }
    else match s.mode with
      | .code =>
        if opensSection text then
          some { s with mode := .tex, report := s.report.polled [] [.leavingCode s.line] }
        else some { s with line := s.line + 1, left := rest, report := s.report.polled [] [] }
      | .tex =>
        let r := Reading.ofTexLine s.line text
        some ⟨r.next, s.line + 1, rest, false, s.report.polled r.tokens r.events⟩
  | _, _ => none

/-- The loop after a number of turns, if it makes that many. -/
def turns (signal : Signal) : Nat → ScanLoop → Option ScanLoop
  | 0, s => some s
  | k + 1, s => (s.turn? signal).bind (turns signal k)

/-- What gets smaller in every turn. -/
def measure (s : ScanLoop) : Nat := if s.stopped then 0 else 2 * s.left.length + s.mode.slack

/-- The report of the scan that goes on from here. -/
def outcome (signal : Signal) (s : ScanLoop) : Report :=
  if s.stopped then s.report
  else
    let r := scanFrom signal s.mode s.report.polls s.line s.report.tokens.length s.left
    ⟨s.report.tokens ++ r.tokens, r.polls, s.report.events ++ r.events⟩

variable {signal : Signal} {s s' : ScanLoop}

/-! ## One turn -/

/-- What a turn can do: it stops the loop, it leaves code mode and stays at its line, it passes over
a line of program text, or it reads a line in TeX mode. -/
inductive Turn (signal : Signal) (s : ScanLoop) (text : List Char) (rest : List (List Char)) :
    ScanLoop → Prop
  | stop (hpoll : signal s.report.polls = true) :
    Turn signal s text rest { s with
      stopped := true
      report := s.report.polled [] [.cancelled s.line s.report.tokens.length] }
  | leave (hpoll : signal s.report.polls = false) (hmode : s.mode = .code)
      (hopens : opensSection text = true) :
    Turn signal s text rest { s with
      mode := .tex
      report := s.report.polled [] [.leavingCode s.line] }
  | pass (hpoll : signal s.report.polls = false) (hmode : s.mode = .code)
      (hopens : opensSection text = false) :
    Turn signal s text rest { s with
      line := s.line + 1
      left := rest
      report := s.report.polled [] [] }
  | read (hpoll : signal s.report.polls = false) (hmode : s.mode = .tex) :
    Turn signal s text rest ⟨(Reading.ofTexLine s.line text).next, s.line + 1, rest, false,
      s.report.polled (Reading.ofTexLine s.line text).tokens
        (Reading.ofTexLine s.line text).events⟩

theorem turn_of_eq_some (h : s.turn? signal = some s') :
    s.stopped = false ∧ ∃ text rest, s.left = text :: rest ∧ Turn signal s text rest s' := by
  obtain ⟨mode, line, left, stopped, report⟩ := s
  cases stopped with
  | true => simp [turn?] at h
  | false =>
    refine ⟨rfl, ?_⟩
    cases left with
    | nil => simp [turn?] at h
    | cons text rest =>
      refine ⟨text, rest, rfl, ?_⟩
      cases hpoll : signal report.polls with
      | true =>
        simp only [turn?, hpoll, if_true, Option.some.injEq] at h
        exact h ▸ .stop hpoll
      | false =>
        cases mode with
        | tex =>
          simp only [turn?, hpoll, Bool.false_eq_true, if_false, Option.some.injEq] at h
          exact h ▸ .read hpoll rfl
        | code =>
          cases hopens : opensSection text with
          | true =>
            simp only [turn?, hpoll, hopens, Bool.false_eq_true, if_false, if_true,
              Option.some.injEq] at h
            exact h ▸ .leave hpoll rfl hopens
          | false =>
            simp only [turn?, hpoll, hopens, Bool.false_eq_true, if_false,
              Option.some.injEq] at h
            exact h ▸ .pass hpoll rfl hopens

theorem eq_nil_of_turn_eq_none (h : s.turn? signal = none) (hs : s.stopped = false) :
    s.left = [] := by
  obtain ⟨mode, line, left, stopped, report⟩ := s
  cases left with
  | nil => rfl
  | cons text rest =>
    obtain rfl : stopped = false := hs
    simp only [turn?] at h
    split at h
    · cases h
    · split at h
      · split at h <;> cases h
      · cases h

theorem polls_turn (h : s.turn? signal = some s') :
    s'.report.polls = s.report.polls + 1 := by
  obtain ⟨-, text, rest, -, hturn⟩ := turn_of_eq_some h
  cases hturn <;> rfl

/-- **Every turn brings the loop closer to its end.** -/
theorem measure_turn (h : s.turn? signal = some s') : s'.measure < s.measure := by
  obtain ⟨hs, text, rest, hleft, hturn⟩ := turn_of_eq_some h
  cases hturn with
  | stop hpoll =>
    simp only [measure, hs, hleft, if_true, Bool.false_eq_true, if_false, List.length_cons]
    omega
  | leave hpoll hcode hopens => simp [measure, hs, hcode, Mode.slack]
  | pass hpoll hcode hopens => simp [measure, hs, hleft, hcode]
  | read hpoll htex =>
    have hnext := (Reading.ofTexLine s.line text).next.slack_le_one
    simp only [measure, hs, hleft, Bool.false_eq_true, if_false, List.length_cons]
    omega

/-- A line that ends the program text is read again in TeX mode, with a poll of its own. -/
theorem scanFrom_code_of_opens {p : Nat} {text : List Char} (hpoll : signal p = false)
    (hopens : opensSection text = true) (i n : Nat) (rest : List (List Char)) :
    scanFrom signal .code p i n (text :: rest) =
      (Reading.mk [] [.leavingCode i] .tex).andThen
        (scanFrom signal .tex (p + 1) i n (text :: rest)) := by
  cases hpoll' : signal (p + 1) with
  | true => simp [scanFrom, hpoll, hopens, hpoll']
  | false =>
    simp [scanFrom, hpoll, hopens, hpoll', Reading.andThen, Reading.ofSectionLine]

/-- **A turn does not change what the scan gives in the end.** -/
theorem outcome_turn (h : s.turn? signal = some s') : s'.outcome signal = s.outcome signal := by
  obtain ⟨hs, text, rest, hleft, hturn⟩ := turn_of_eq_some h
  cases hturn with
  | stop hpoll =>
    simp [outcome, hs, hleft, scanFrom, hpoll, Report.cancelledAt, Report.polled]
  | leave hpoll hcode hopens =>
    simp only [outcome, hs, hleft, hcode, scanFrom_code_of_opens hpoll hopens]
    simp [Reading.andThen, Report.polled]
  | pass hpoll hcode hopens =>
    simp [outcome, hs, hleft, hcode, scanFrom, hpoll, hopens, Report.polled]
  | read hpoll htex =>
    simp [outcome, hs, hleft, htex, scanFrom, hpoll, Reading.andThen, Report.polled]

theorem outcome_of_ended (h : s.turn? signal = none) : s.outcome signal = s.report := by
  cases hs : s.stopped with
  | true => simp [outcome, hs]
  | false => simp [outcome, hs, eq_nil_of_turn_eq_none h hs, scanFrom]

/-! ## All turns -/

theorem exists_ended (signal : Signal) (s : ScanLoop) :
    ∃ k last, s.turns signal k = some last ∧ last.turn? signal = none := by
  induction hm : s.measure using Nat.strongRecOn generalizing s with
  | ind m ih =>
    cases hturn : s.turn? signal with
    | none => exact ⟨0, s, rfl, hturn⟩
    | some s' =>
      obtain ⟨k, last, hlast, hended⟩ := ih s'.measure (hm ▸ measure_turn hturn) s' rfl
      exact ⟨k + 1, last, by rw [turns, hturn, Option.bind_some, hlast], hended⟩

theorem report_turns {k : Nat} (h : s.turns signal k = some s') :
    s'.report.polls = s.report.polls + k ∧ s'.outcome signal = s.outcome signal := by
  induction k generalizing s with
  | zero =>
    cases h
    exact ⟨rfl, rfl⟩
  | succ k ih =>
    rw [turns, Option.bind_eq_some_iff] at h
    obtain ⟨mid, hturn, hrest⟩ := h
    obtain ⟨hpolls, houtcome⟩ := ih hrest
    rw [polls_turn hturn] at hpolls
    exact ⟨by omega, houtcome.trans (outcome_turn hturn)⟩

/-- **The loop of a scan ends**, after as many turns as the scan makes polls, with the report of the
scan. -/
theorem ends (text : List Char) (signal : Signal) :
    ∃ last, (start text).turns signal (scan text signal).polls = some last ∧
      last.turn? signal = none ∧ last.report = scan text signal := by
  obtain ⟨k, last, hlast, hended⟩ := exists_ended signal (start text)
  obtain ⟨hpolls, houtcome⟩ := report_turns hlast
  have hreport : last.report = scan text signal := by
    rw [← outcome_of_ended hended, houtcome]
    simp [outcome, start, scan]
  have hk : (scan text signal).polls = k := by
    rw [← hreport, hpolls]
    exact Nat.zero_add k
  exact ⟨last, hk ▸ hlast, hended, hreport⟩

end ScanLoop

end CwebHighlight
