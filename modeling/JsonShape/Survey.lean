import JsonShape.Schema.Render
import JsonShape.Shape.Absorb
import JsonShape.Snapshot

/-!
# Surveys

A survey takes in values one after another. It holds the shape of all values so far and their
number, and can be exported to a snapshot and resumed from one.
-/

set_option autoImplicit false

namespace JsonShape

/-- What has been learned from a stream of values. -/
structure Survey where
  /-- The formats that are looked for in strings. -/
  detectors : Detectors
  shape : Shape
  /-- How many values have been taken in; the count goes on from zero past 64 bits. -/
  observations : UInt64

namespace Survey

/-- A survey of no values yet. -/
def start (detectors : Detectors) : Survey := ⟨detectors, .unknown, 0⟩

/-- A survey with one more value. -/
def observe (s : Survey) (v : Json) : Survey :=
  { s with shape := Shape.absorb s.detectors v s.shape, observations := s.observations + 1 }

/-- A survey with more values, in order. -/
def observeAll (s : Survey) (values : List Json) : Survey := values.foldl observe s

/-- What a survey has learned, to be kept. -/
def snapshot (s : Survey) : Snapshot := ⟨Snapshot.currentVersion, s.observations, s.shape⟩

/-- The survey that a snapshot was made of, if it is sound. -/
def resume (detectors : Detectors) (s : Snapshot) : Except Failure Survey :=
  s.validate.map fun _ => ⟨detectors, s.shape, s.observations⟩

/-- The schema of all values so far. -/
def render (s : Survey) (options : RenderOptions) : Schema := s.shape.toDocument options

end Survey

end JsonShape
