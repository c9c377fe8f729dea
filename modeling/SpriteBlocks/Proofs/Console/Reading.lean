import Mathlib.Data.List.Count
import SpriteBlocks.Console.Panel
import SpriteBlocks.Proofs.Text.SingleLine

/-!
# Reading the panel

Every event stands on the panel behind the label of its level, and all labels
are as long as each other. So the panel can be read: a line with a label begins
an event, and a line without one goes on with the message of the event before.
Reading gives back the log exactly if no message has a line of its own that
looks like an event.
-/
namespace SpriteBlocks
namespace Console

/-- What stands in front of the message on a panel without colours. -/
def heading (level : LogLevel) : String := levelLabel {} level ++ " "

/-- What a log alone writes on a panel without colours. -/
def logText (log : Log) : String := panelText {} log []

def event? (line : String) : Option LogEvent :=
  (LogLevel.all.find? fun level => (heading level).toList.isPrefixOf line.toList).map fun level =>
    ⟨level, String.ofList (line.toList.drop (heading level).length)⟩

/-- The lines in front of the first event, and the events. -/
def readLines : List String → List String × Log
  | [] => ([], [])
  | line :: rest =>
    let (more, log) := readLines rest
    match event? line with
    | some e => ([], ⟨e.level, "\n".intercalate (e.message :: more)⟩ :: log)
    | none => (line :: more, log)

def linesOf (text : String) : List String := (Text.split '\n' text).dropLast

def readLog (text : String) : Log := (readLines (linesOf text)).2

end Console

/-- No line of the message but the first looks like an event. -/
def LogEvent.IsClear (e : LogEvent) : Prop :=
  ∀ line ∈ (Text.split '\n' e.message).tail, Console.event? line = none

instance (e : LogEvent) : Decidable e.IsClear :=
  inferInstanceAs
    (Decidable (∀ line ∈ (Text.split '\n' e.message).tail, Console.event? line = none))

theorem LogEvent.IsClear.of_isLine {e : LogEvent} (h : Text.IsLine e.message) : e.IsClear := by
  simp [IsClear, h.split_eq]

namespace Console
variable {e : LogEvent} {log log' : Log}

theorem isLine_heading (level : LogLevel) : Text.IsLine (heading level) := by
  cases level <;> decide

theorem logLine_eq (e : LogEvent) : logLine {} e = heading e.level ++ e.message := rfl

@[simp] theorem isLine_logLine : Text.IsLine (logLine {} e) ↔ Text.IsLine e.message := by
  simp [logLine_eq, isLine_heading]

theorem length_heading (level : LogLevel) : (heading level).length = labelWidth + 1 := by
  cases level <;> decide

theorem heading_injective : Function.Injective heading := by
  intro level level' h
  cases level <;> cases level' <;> first | rfl | exact absurd h (by decide)

/-- A line begins with the heading of one level only. -/
theorem heading_prefix_iff {level level' : LogLevel} {message : String} :
    (heading level').toList <+: (heading level ++ message).toList ↔ level' = level := by
  have hlength : (heading level').toList.length = (heading level).toList.length := by
    rw [String.length_toList, String.length_toList, length_heading, length_heading]
  rw [String.toList_append]
  refine ⟨fun h => heading_injective (String.toList_inj.1 ?_), fun h => h ▸ List.prefix_append _ _⟩
  have hprefix := List.prefix_of_prefix_length_le h (List.prefix_append _ _) (Nat.le_of_eq hlength)
  exact hprefix.eq_of_length hlength

theorem event?_heading_append (level : LogLevel) (message : String) :
    event? (heading level ++ message) = some ⟨level, message⟩ := by
  have hfind : LogLevel.all.find? (fun level' =>
      (heading level').toList.isPrefixOf (heading level ++ message).toList) = some level := by
    simp only [Bool.eq_iff_iff.2 (List.isPrefixOf_iff_prefix.trans
      (heading_prefix_iff.trans decide_eq_true_iff.symm))]
    cases level <;> rfl
  have hdrop : (heading level ++ message).toList.drop (heading level).length = message.toList := by
    rw [String.toList_append, ← String.length_toList, List.drop_left]
  rw [event?, hfind, Option.map_some, hdrop, String.ofList_toList]

@[simp] theorem event?_logLine (e : LogEvent) : event? (logLine {} e) = some e :=
  event?_heading_append e.level e.message

theorem logLine_injective : Function.Injective (logLine {}) := fun e e' h => by
  simpa using congrArg event? h

theorem logText_cons (e : LogEvent) (log : Log) :
    logText (e :: log) = logLine {} e ++ String.singleton '\n' ++ logText log := by
  rw [logText, panelText, textOfLines, List.map_cons, List.cons_append, List.map_cons,
    String.join_cons]
  rfl

theorem split_logText_cons (e : LogEvent) (log : Log) : Text.split '\n' (logText (e :: log)) =
    Text.split '\n' (logLine {} e) ++ Text.split '\n' (logText log) := by
  rw [logText_cons, Text.split_append_singleton_append]

/-- The panel has one line for each event, in order, exactly if no message has a line feed. -/
theorem split_logText_iff : Text.split '\n' (logText log) = log.map (logLine {}) ++ [""] ↔
    ∀ e ∈ log, Text.IsLine e.message := by
  constructor
  · intro h e he
    have hline : logLine {} e ∈ Text.split '\n' (logText log) :=
      h ▸ List.mem_append_left _ (List.mem_map_of_mem he)
    exact isLine_logLine.1 (Text.not_mem_of_mem_split hline)
  · intro h
    induction log with
    | nil => rfl
    | cons e log ih =>
      rw [List.forall_mem_cons] at h
      rw [split_logText_cons, (isLine_logLine.2 h.1).split_eq, ih h.2]
      rfl

theorem linesOf_logText_cons (e : LogEvent) (log : Log) :
    linesOf (logText (e :: log)) = Text.split '\n' (logLine {} e) ++ linesOf (logText log) := by
  rw [linesOf, split_logText_cons, List.dropLast_append_of_ne_nil (Text.split_ne_nil _ _)]
  rfl

theorem readLines_append_of_none {more : List String} (h : ∀ line ∈ more, event? line = none)
    (lines : List String) :
    readLines (more ++ lines) = (more ++ (readLines lines).1, (readLines lines).2) := by
  induction more with
  | nil => rfl
  | cons line more ih =>
    rw [List.forall_mem_cons] at h
    simp [readLines, h.1, ih h.2]

theorem exists_split_logLine (e : LogEvent) : ∃ first more,
    Text.split '\n' e.message = first :: more ∧
      Text.split '\n' (logLine {} e) = (heading e.level ++ first) :: more := by
  obtain ⟨first, more, hpieces⟩ := List.exists_cons_of_ne_nil (Text.split_ne_nil '\n' e.message)
  refine ⟨first, more, hpieces, ?_⟩
  rw [logLine_eq, Text.split_append_of_not_mem (isLine_heading _), hpieces, List.modifyHead_cons]

/-- Reading finds every event of a log whose messages are clear. -/
theorem readLines_logText (h : ∀ e ∈ log, e.IsClear) :
    readLines (linesOf (logText log)) = ([], log) := by
  induction log with
  | nil => rfl
  | cons e log ih =>
    rw [List.forall_mem_cons] at h
    obtain ⟨first, more, hpieces, hlines⟩ := exists_split_logLine e
    have hclear : ∀ line ∈ more, event? line = none := by
      simpa [LogEvent.IsClear, hpieces] using h.1
    have hjoin : "\n".intercalate (first :: more) = e.message :=
      hpieces ▸ Text.intercalate_split '\n' e.message
    rw [linesOf_logText_cons, hlines, List.cons_append, readLines,
      readLines_append_of_none hclear, ih h.2]
    simp [event?_heading_append, hjoin]

/-- As many events are read as there are lines that look like one. -/
theorem length_readLines (lines : List String) :
    (readLines lines).2.length = lines.countP fun line => (event? line).isSome := by
  induction lines with
  | nil => rfl
  | cons line lines ih =>
    rw [readLines]
    cases hline : event? line <;> simp [hline, ih]

/-- The lines that look like events are the first lines of the events and those
further down in messages. -/
theorem countP_linesOf_logText (log : Log) :
    ((linesOf (logText log)).countP fun line => (event? line).isSome) = log.length +
      (log.flatMap fun e => (Text.split '\n' e.message).tail).countP fun line =>
        (event? line).isSome := by
  induction log with
  | nil => rfl
  | cons e log ih =>
    obtain ⟨first, more, hpieces, hlines⟩ := exists_split_logLine e
    rw [linesOf_logText_cons, hlines, List.countP_append, ih, List.flatMap_cons,
      List.countP_append, hpieces]
    simp only [List.countP_cons, event?_heading_append, Option.isSome_some,
      if_true, List.tail_cons, List.length_cons]
    omega

/-- Reading the panel gives back the log exactly if every message is clear. -/
theorem readLog_logText_iff : readLog (logText log) = log ↔ ∀ e ∈ log, e.IsClear := by
  refine ⟨fun h e he line hline => ?_, fun h => congrArg Prod.snd (readLines_logText h)⟩
  have hcount := length_readLines (linesOf (logText log))
  rw [show (readLines (linesOf (logText log))).2 = log from h, countP_linesOf_logText,
    eq_comm, Nat.add_eq_left, List.countP_eq_zero] at hcount
  simpa using hcount line (List.mem_flatMap.2 ⟨e, he, hline⟩)

/-- Logs of clear messages that stand alike on the panel are the same. -/
theorem logText_injOn (h : ∀ e ∈ log, e.IsClear) (h' : ∀ e ∈ log', e.IsClear)
    (htext : logText log = logText log') : log = log' := by
  rw [← readLog_logText_iff.2 h, htext, readLog_logText_iff.2 h']

/-- The panel shows what happened and nothing else. -/
structure Legible (log : Log) : Prop where
  /-- At every moment there is one line for each event so far, in order. -/
  lines : ∀ first, first <+: log →
    Text.split '\n' (logText first) = first.map (logLine {}) ++ [""]
  /-- The log can be read from the panel. -/
  read : readLog (logText log) = log
  /-- No other log that can be read stands on the panel like this one. -/
  unique : ∀ other : Log, (∀ e ∈ other, e.IsClear) → logText other = logText log → other = log
  /-- The line of an event stands there as often as the event happened. -/
  count : ∀ e, (Text.split '\n' (logText log)).count (logLine {} e) = List.count e log

theorem logLine_ne_empty (e : LogEvent) : logLine {} e ≠ "" := by
  intro h
  have hnone : event? "" = none := by decide
  rw [← h, event?_logLine] at hnone
  cases hnone

theorem legible_iff : Legible log ↔ ∀ e ∈ log, Text.IsLine e.message := by
  refine ⟨fun h => split_logText_iff.1 (h.lines log List.prefix_rfl), fun h => ?_⟩
  have hclear : ∀ e ∈ log, e.IsClear := fun e he => .of_isLine (h e he)
  refine ⟨fun first hfirst => ?_, readLog_logText_iff.2 hclear,
    fun other hother => logText_injOn hother hclear, fun e => ?_⟩
  · exact split_logText_iff.2 fun e he => h e (hfirst.subset he)
  · rw [split_logText_iff.2 h, List.count_append, List.count_map_of_injective _ _ logLine_injective,
      List.count_singleton, if_neg (by simpa using (logLine_ne_empty e).symm), Nat.add_zero]

end Console
end SpriteBlocks
