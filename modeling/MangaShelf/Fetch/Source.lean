import MangaShelf.Failure
import MangaShelf.Json.Value

/-!
# Sources

Where pages, documents and images come from, and computations that ask such a source. A computation
keeps the addresses that it asked for, in order, also when it fails.
-/

namespace MangaShelf

/-- What answers requests; nothing stands for a failed one. -/
structure Source where
  text : String → Except Failure (Option String)
  json : String → Except Failure (Option Json)
  bytes : String → Except Failure (Option (List UInt8))

/-- The outcome of a computation, with the addresses that it asked for. -/
structure Run (α : Type) where
  requested : List String
  outcome : Except Failure α

/-- A computation that asks a source. -/
def Fetching (α : Type) := Source → Run α

namespace Fetching

variable {α β : Type}

/-- A value that needs no request. -/
def pure (a : α) : Fetching α := fun _ => ⟨[], .ok a⟩

/-- Run a computation and then another one that depends on its value. -/
def bind (x : Fetching α) (f : α → Fetching β) : Fetching β := fun source =>
  let first := x source
  match first.outcome with
  | .error failure => ⟨first.requested, .error failure⟩
  | .ok a =>
    let second := f a source
    ⟨first.requested ++ second.requested, second.outcome⟩

instance : Monad Fetching where
  pure := pure
  bind := bind

/-- Stop with a failure. -/
def fail (failure : Failure) : Fetching α := fun _ => ⟨[], .error failure⟩

/-- The value of a computation without requests, or its failure. -/
def lift (r : Except Failure α) : Fetching α := fun _ => ⟨[], r⟩

/-- Run a computation and take its failure as a value. -/
def attempt (x : Fetching α) : Fetching (Except Failure α) := fun source =>
  let run := x source
  ⟨run.requested, .ok run.outcome⟩

/-- Ask for a text. -/
def text (url : String) : Fetching (Option String) := fun source =>
  ⟨[url], source.text url⟩

/-- Ask for a JSON document. -/
def json (url : String) : Fetching (Option Json) := fun source =>
  ⟨[url], source.json url⟩

/-- Ask for the bytes of a file. -/
def bytes (url : String) : Fetching (Option (List UInt8)) := fun source =>
  ⟨[url], source.bytes url⟩

end Fetching

end MangaShelf
