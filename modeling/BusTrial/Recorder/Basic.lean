import BusTrial.Act

/-!
# Recorders

A recorder watches something while a test runs: it is started before the test, stopped after it, and
then saves blocks of text into a `RecordStore`.  `Recorder ρ σ` says how recorders of type `ρ` do that
on a state `σ`.
-/

namespace BusTrial

/-- Saved blocks, the first one first. -/
structure RecordStore where
  blocks : List String := []
  deriving DecidableEq, Repr, Inhabited

namespace RecordStore

/-- Adds a block. -/
def append (s : RecordStore) (block : String) : RecordStore :=
  ⟨s.blocks ++ [block]⟩

/-- Adds blocks in order. -/
def appendAll (s : RecordStore) (blocks : List String) : RecordStore :=
  ⟨s.blocks ++ blocks⟩

/-- All blocks in a row. -/
def contents (s : RecordStore) : String :=
  String.join s.blocks

end RecordStore

/-- The line that begins a block. -/
def blockHeader (description : String) : String :=
  "<<<<< " ++ description ++ " >>>>>\n"

/-- Values of `ρ` have a name that blocks and failures call them by. -/
class Described (ρ : Type) where
  description : ρ → String

export Described (description)

/-- Values of `ρ` are recorders on the state. -/
class Recorder (ρ σ : Type) extends Described ρ where
  /-- Begins to record. -/
  start : Act (ρ × σ) Unit
  /-- Ends the recording. -/
  stop : Act (ρ × σ) Unit
  /-- Saves what was recorded. -/
  save : Act (RecordStore × ρ × σ) Unit

/-- A recorder that records nothing. -/
structure NullRecorder where
  description : String
  deriving DecidableEq, Repr

instance : Described NullRecorder := ⟨NullRecorder.description⟩

instance {σ : Type} : Recorder NullRecorder σ where
  start := pure ()
  stop := pure ()
  save := pure ()

/-! ## Recorders of two types

A row of recorders can mix two types: each of `ρ ⊕ τ` does what the recorder inside it does.
-/

section

variable {ρ τ σ : Type}

instance [Described ρ] [Described τ] : Described (ρ ⊕ τ) where
  description
    | .inl r => description r
    | .inr t => description t

/-- Does one or the other, depending on which type the recorder has. -/
def Act.onEither {α : Type} (left : Act (ρ × σ) α) (right : Act (τ × σ) α) :
    Act ((ρ ⊕ τ) × σ) α
  | (.inl r, s) => let (ended, r, s) := left (r, s); (ended, .inl r, s)
  | (.inr t, s) => let (ended, t, s) := right (t, s); (ended, .inr t, s)

instance [Recorder ρ σ] [Recorder τ σ] : Recorder (ρ ⊕ τ) σ where
  start := Act.onEither Recorder.start Recorder.start
  stop := Act.onEither Recorder.stop Recorder.stop
  save := fun (store, either, s) =>
    match either with
    | .inl r =>
      let (ended, store, r, s) := (Recorder.save : Act (RecordStore × ρ × σ) Unit) (store, r, s)
      (ended, store, .inl r, s)
    | .inr t =>
      let (ended, store, t, s) := (Recorder.save : Act (RecordStore × τ × σ) Unit) (store, t, s)
      (ended, store, .inr t, s)

end

end BusTrial
