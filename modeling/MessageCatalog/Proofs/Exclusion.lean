import MessageCatalog.Proofs.Reordering

/-! # Excluded files are invisible

Whether a call site is left out is decided by the file of its position alone.  What a run requests
is therefore decided by the call sites in other files (`chosen_kept`), and as it reads the requested
sources only, an excluded one can hold anything or be missing.  `complete` is the part of a run from
its call sites on, with any predicate on files in place of the one that the options give
(`Collects.goesOn`).  What can stop it are the files of call sites that are kept, and no others
(`StopsAtKept`). -/

namespace MessageCatalog

namespace Session

variable {w w' : World Id} {a a' : Arguments} {options : Options}
  {excludes : String → Bool} {sites : List CallSite} {ps : List Position}

section complete

variable (w : World Id) (parser : Parser) (width : Char → Nat) (verbose : Bool)
  (excludes : String → Bool) (associator : Associator) (sort : Bool) (sites : List CallSite)

/-- What a run does with the call sites it has collected. -/
def complete : Session Id Product := do
  let selection ← select verbose excludes {} sites
  let product ← extract w parser width associator sort selection
  if verbose then write product.summary.render
  return product

variable {sites}

end complete

section kept

variable (parser : Parser) (width : Char → Nat) (associator : Associator) (sort : Bool)

end kept

/-! ### Whole runs -/

section runs

variable {α β : Type}

/-- From `log` on, `x` gives and leaves what `y` does from `log'` on. -/
def GoesOn (x : Session Id α) (log : Log) (y : Session Id α) (log' : Log) : Prop :=
  result x log = result y log' ∧ final x log = final y log'

theorem GoesOn.trans {x y z : Session Id α} {l₁ l₂ l₃ : Log} (h : GoesOn x l₁ y l₂)
    (h' : GoesOn y l₂ z l₃) : GoesOn x l₁ z l₃ :=
  ⟨h.1.trans h'.1, h.2.trans h'.2⟩

end runs

section alike

variable {parser : Parser} {width : Char → Nat} {possible : SessionError → Prop}

end alike

end Session

open Extraction Session

end MessageCatalog
