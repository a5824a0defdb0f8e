/-!
# Reports

What a computation reports on its way, oldest first, beside its result. Most reports are lines for people,
each with a level.
-/

namespace VesselBus

inductive Level where
  | error | warn | info | debug
  deriving DecidableEq, Repr

def Level.name : Level → String
  | .error => "ERROR"
  | .warn => "WARN"
  | .info => "INFO"
  | .debug => "DEBUG"

structure Line where
  level : Level
  text : String
  deriving DecidableEq, Repr

/-- A result with the reports made before it. -/
structure Traced (ε α : Type) where
  reports : List ε
  result : α

namespace Traced

variable {ε δ α β : Type}

def report (e : ε) : Traced ε Unit := ⟨[e], ()⟩

instance : Monad (Traced ε) where
  pure a := ⟨[], a⟩
  bind x f := ⟨x.reports ++ (f x.result).reports, (f x.result).result⟩

@[simp] theorem result_pure (a : α) : (pure a : Traced ε α).result = a := rfl

@[simp] theorem reports_pure (a : α) : (pure a : Traced ε α).reports = [] := rfl

@[simp] theorem result_bind (x : Traced ε α) (f : α → Traced ε β) :
    (x >>= f).result = (f x.result).result := rfl

@[simp] theorem reports_bind (x : Traced ε α) (f : α → Traced ε β) :
    (x >>= f).reports = x.reports ++ (f x.result).reports := rfl

/-- The same computation with its reports seen as reports of another type. -/
def mapReports (f : ε → δ) (x : Traced ε α) : Traced δ α := ⟨x.reports.map f, x.result⟩

@[simp] theorem result_mapReports (f : ε → δ) (x : Traced ε α) : (x.mapReports f).result = x.result := rfl

@[simp] theorem reports_mapReports (f : ε → δ) (x : Traced ε α) :
    (x.mapReports f).reports = x.reports.map f := rfl

end Traced

/-- A result with the lines logged before it. -/
abbrev Logged := Traced Line

def logLine (level : Level) (text : String) : Logged Unit := .report ⟨level, text⟩

end VesselBus
