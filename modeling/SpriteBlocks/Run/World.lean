import SpriteBlocks.Random.Source
import SpriteBlocks.Run.Control
import SpriteBlocks.Run.Effect

/-!
# The world of a run

A world holds the sprite, the random source, the run flag and a journal of what
happened. The host stands for everything outside the interpreter: it sees each
effect at the moment it happens and may press stop at that moment. `effects` is
the part of the journal that the host saw.
-/
namespace SpriteBlocks

/-- Everything outside the interpreter, with a state of its own. -/
structure Host (σ : Type) where
  /-- The host's next state, and whether it presses stop during the effect. It
  sees the run flag as it is before that. -/
  respond : σ → RunState → Effect → σ × Bool

/-- The state of a run and of the host around it. -/
structure World (σ : Type) where
  sprite : Sprite
  source : Random.Source
  flag : RunState
  host : σ
  journal : Array Entry := #[]
  /-- A `forever` loop used up the rounds it was given. -/
  exhausted : Bool := false

namespace World
variable {σ : Type}

def isRunning (w : World σ) : Bool := w.flag.isRunning && !w.exhausted

/-- Write a note into the journal. A world whose loops ran out takes no more. -/
def note (n : Note) (w : World σ) : World σ :=
  if w.exhausted then w else { w with journal := w.journal.push (.note n) }

def pressStop (w : World σ) : World σ :=
  match w.flag.stop with
  | (flag, true) => { w with flag }.note .stopRequested
  | (_, false) => w

/-- Do something to the world around, and let the host respond. -/
def perform (h : Host σ) (e : Effect) (w : World σ) : World σ :=
  let (host, pressed) := h.respond w.host w.flag e
  let after := { w with host, journal := w.journal.push (.effect e) }
  if pressed then after.pressStop else after

def log (h : Host σ) (level : LogLevel) (message : String) (w : World σ) : World σ :=
  w.perform h (.log ⟨level, message⟩)

def render (h : Host σ) (transition : Duration) (w : World σ) : World σ :=
  w.perform h (.frame w.sprite transition)

def sleep (h : Host σ) (d : Duration) (w : World σ) : World σ := w.perform h (.sleep d)

def speak (h : Host σ) (s : Speech) (w : World σ) : World σ := w.perform h (.speech s)

def draw (h : Host σ) (w : World σ) : UInt64 × World σ :=
  let word := w.source.peek
  (word, { w with source := w.source.advance }.perform h (.draw word))

def effects (w : World σ) : List Effect := w.journal.toList.filterMap Entry.effect?

def notes (w : World σ) : List Note := w.journal.toList.filterMap Entry.note?

def events (w : World σ) : Log := w.effects.filterMap Effect.event?

def frames (w : World σ) : List (Sprite × Duration) := w.effects.filterMap Effect.frame?

def speeches (w : World σ) : List Speech := w.effects.filterMap Effect.speech?

@[simp] theorem effects_note (n : Note) (w : World σ) : (w.note n).effects = w.effects := by
  unfold note; split <;> simp [effects, Entry.effect?]

@[simp] theorem effects_pressStop (w : World σ) : w.pressStop.effects = w.effects := by
  unfold pressStop
  split
  · rw [effects_note]; rfl
  · rfl

theorem effects_push (w : World σ) (host : σ) (e : Effect) :
    { w with host, journal := w.journal.push (.effect e) }.effects = w.effects ++ [e] := by
  simp [effects, Entry.effect?]

@[simp] theorem effects_perform (h : Host σ) (e : Effect) (w : World σ) :
    (w.perform h e).effects = w.effects ++ [e] := by
  unfold perform
  dsimp only
  split
  · rw [effects_pressStop, effects_push]
  · exact effects_push w _ e

@[simp] theorem sprite_note (n : Note) (w : World σ) : (w.note n).sprite = w.sprite := by
  unfold note; split <;> rfl

@[simp] theorem sprite_pressStop (w : World σ) : w.pressStop.sprite = w.sprite := by
  unfold pressStop; split <;> simp

@[simp] theorem sprite_perform (h : Host σ) (e : Effect) (w : World σ) :
    (w.perform h e).sprite = w.sprite := by
  unfold perform; dsimp only; split <;> simp

@[simp] theorem source_note (n : Note) (w : World σ) : (w.note n).source = w.source := by
  unfold note; split <;> rfl

@[simp] theorem source_pressStop (w : World σ) : w.pressStop.source = w.source := by
  unfold pressStop; split <;> simp

@[simp] theorem source_perform (h : Host σ) (e : Effect) (w : World σ) :
    (w.perform h e).source = w.source := by
  unfold perform; dsimp only; split <;> simp

end World
end SpriteBlocks
