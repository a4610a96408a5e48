import QueryConsole.Backend.Mock

-- Backends to choose from: the mock, one that refuses every call, and one with fixed answers. Any
-- of them can be made to refuse batches or single calls from some time on.
namespace QueryConsole

inductive Service
  | mock (m : Mock)
  | failing (message : String)
  | scripted (batch : List Response) (single : Response)

namespace Service

def mock? : Service → Option Mock
  | mock m => some m
  | _ => none

def params? (s : Service) : Option Params :=
  s.mock?.map Mock.visibleParams

def receive (s : Service) (call : Call) : Service × Except ConsoleError Nat :=
  match s with
  | mock m =>
    let (m, delay) := m.receive call
    (mock m, delay)
  | failing message => (s, .error ⟨.backend, message⟩)
  | scripted .. => (s, .ok 0)

def batchAnswer (s : Service) (statements directives : List String) :
    Service × Answer (List Response) :=
  match s with
  | mock m =>
    let (m, answer) := m.batch statements directives
    (mock m, answer)
  | failing message => (s, .error ⟨.backend, message⟩)
  | scripted batch _ => (s, .ok batch)

def singleAnswer (s : Service) (statement : String) (directives : List String) :
    Service × Answer Response :=
  match s with
  | mock m =>
    let (m, answer) := m.single statement directives
    (mock m, answer)
  | failing message => (s, .error ⟨.backend, message⟩)
  | scripted _ single => (s, .ok single)

instance : Backend Service where
  receive := receive
  batch := batchAnswer
  single := singleAnswer

end Service

-- A backend that can be told to refuse calls. A call taken on before is still answered.
structure Faulty (σ : Type) where
  inner : σ
  refusesBatch : Bool
  refusesSingle : Bool

namespace Faulty

variable {σ : Type}

def ofBackend (inner : σ) : Faulty σ :=
  ⟨inner, false, false⟩

def refusal? (s : Faulty σ) : Call → Option ConsoleError
  | .batch .. => if s.refusesBatch then some ⟨.backend, "batch unavailable"⟩ else none
  | .single .. => if s.refusesSingle then some ⟨.backend, "params unavailable"⟩ else none

instance [Backend σ] : Backend (Faulty σ) where
  receive s call :=
    match s.refusal? call with
    | some e => (s, .error e)
    | none =>
      let (inner, delay) := Backend.receive s.inner call
      ({ s with inner }, delay)
  batch s statements directives :=
    let (inner, answer) := Backend.batch s.inner statements directives
    ({ s with inner }, answer)
  single s statement directives :=
    let (inner, answer) := Backend.single s.inner statement directives
    ({ s with inner }, answer)

end Faulty
end QueryConsole
