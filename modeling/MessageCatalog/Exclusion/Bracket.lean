import MessageCatalog.Exclusion.Escape

/-! # Classes in brackets

A class lists characters, ranges, escapes, named ASCII classes and further classes in brackets,
and may combine such lists by `&&`, `--` and `~~`, from left to right.  The reader keeps one
level for every open bracket.
-/

namespace MessageCatalog.Exclusion

/-- A set under construction, with the depth of what it was built from. -/
structure Part where
  set : CharSet
  height : Nat

/-- How two lists of a class are combined. -/
inductive Combination where
  | intersection
  | difference
  | symmetricDifference

namespace Combination

/-- The combination of two sets. -/
def apply : Combination → CharSet → CharSet → CharSet
  | intersection => CharSet.inter
  | difference => CharSet.diff
  | symmetricDifference => CharSet.symmDiff

end Combination

/-- An open bracket: the items listed since the last combination, and what they will be combined
with. -/
structure Level where
  negated : Bool
  items : List Part
  left : Option (Combination × Part)

namespace Level

/-- The level with one more item. -/
def add (l : Level) (p : Part) : Level := { l with items := p :: l.items }

/-- The union of the items listed last. -/
def union (l : Level) : Part :=
  match l.items with
  | [] => ⟨.none, 0⟩
  | [p] => p
  | ps => ⟨fun c => ps.any (·.set c), ps.foldl (fun h p => max h p.height) 0 + 1⟩

/-- Everything listed so far. -/
def total (f : Flags) (l : Level) : Part :=
  let right := l.union
  match l.left with
  | none => right
  | some (op, left) =>
    ⟨op.apply (f.closed left.set) (f.closed right.set), max left.height right.height + 1⟩

/-- Start another list, to be combined with everything listed so far. -/
def combine (f : Flags) (op : Combination) (l : Level) : Level :=
  { l with items := [], left := some (op, l.total f) }

/-- The class of a level whose bracket is closed. -/
def close (f : Flags) (l : Level) : Part :=
  let p := l.total f
  ⟨side f l.negated p.set, p.height + 1⟩

end Level

/-- Read the hyphens that open a list, which stand for themselves. -/
def hyphens (f : Flags) (items : List Part) (cs : List Char) : List Part × List Char :=
  match cs with
  | '-' :: rest => hyphens f (⟨.single '-', 0⟩ :: items) (f.skip rest)
  | cs => (items, cs)
termination_by cs.length
decreasing_by exact Nat.lt_succ_of_le (f.length_skip_le rest)

/-- Read what follows an opening bracket: a caret that negates the class, hyphens that stand for
themselves, or else a closing bracket that does. -/
def openLevel (f : Flags) (cs : List Char) : Level × List Char :=
  let (negated, cs) := match f.skip cs with
    | '^' :: rest => (true, f.skip rest)
    | cs => (false, cs)
  match hyphens f [] cs with
  | ([], ']' :: rest) => (⟨negated, [⟨.single ']', 0⟩], none⟩, f.skip rest)
  | (items, cs) => (⟨negated, items, none⟩, cs)

/-- Read a named class behind its `[:`, as `alpha:]` or `^alpha:]`. -/
def namedClass? (f : Flags) (cs : List Char) : Option (CharSet × List Char) :=
  let (negated, cs) := match cs with
    | '^' :: rest => (true, rest)
    | cs => (false, cs)
  match cs.dropWhile (· != ':') with
  | ':' :: ']' :: rest =>
    (CharSet.ascii? (.ofList (cs.takeWhile (· != ':')))).map fun s => (side f negated s, rest)
  | _ => none

/-- Read one item of a list, a character or an escape. -/
def bracketAtom (f : Flags) : List Char → Option (Atom × List Char)
  | [] => none
  | '\\' :: cs => escape f cs
  | c :: cs => if !f.unicode && 0x80 ≤ c.toNat then none else some (.literal c, cs)

/-- Read an item or a range of a list. -/
def bracketItem (f : Flags) (cs : List Char) : Option (Part × List Char) := do
  let (first, rest) ← bracketAtom f cs
  let alone : Option (Part × List Char) := match first with
    | .literal c => some (⟨.single c, 0⟩, f.skip rest)
    | .set s => some (⟨s, 0⟩, f.skip rest)
    | .edge _ => none
  match f.skip rest with
  | [] => none
  | '-' :: behind =>
    let next := f.skip behind
    if next.head? = some ']' || next.head? = some '-' then alone
    else do
      let (last, rest) ← bracketAtom f next
      match first, last with
      | .literal a, .literal b => if a ≤ b then some (⟨.between a b, 0⟩, rest) else none
      | _, _ => none
  | _ => alone

/-- One step inside brackets. -/
inductive BracketStep where
  /-- Reading goes on inside `level` and the brackets around it. -/
  | more (level : Level) (around : List Level) (rest : List Char)
  /-- The outermost bracket is closed. -/
  | done (part : Part) (rest : List Char)

/-- Read one thing inside brackets. -/
def bracketStep (f : Flags) (level : Level) (around : List Level) :
    List Char → Option BracketStep
  | [] => none
  | '[' :: rest =>
    let nested :=
      let (inner, rest) := openLevel f rest
      BracketStep.more inner (level :: around) rest
    match rest with
    | ':' :: name => match namedClass? f name with
      | some (s, rest) => some (.more (level.add ⟨s, 0⟩) around rest)
      | none => some nested
    | _ => some nested
  | ']' :: rest =>
    let part := level.close f
    match around with
    | [] => some (.done part rest)
    | outer :: around => some (.more (outer.add part) around rest)
  | '&' :: '&' :: rest => some (.more (level.combine f .intersection) around rest)
  | '-' :: '-' :: rest => some (.more (level.combine f .difference) around rest)
  | '~' :: '~' :: rest => some (.more (level.combine f .symmetricDifference) around rest)
  | cs => (bracketItem f cs).map fun (p, rest) => .more (level.add p) around rest

/-- Read the rest of a class. -/
def bracketRest (f : Flags) (level : Level) (around : List Level) (cs : List Char) :
    Option (Part × List Char) :=
  match bracketStep f level around (f.skip cs) with
  | none => none
  | some (.done part rest) => some (part, rest)
  | some (.more level around rest) =>
    if _h : rest.length < cs.length then bracketRest f level around rest else none
termination_by cs.length

/-- Read a class behind its opening bracket. -/
def bracket (f : Flags) (cs : List Char) : Option (Part × List Char) :=
  let (level, rest) := openLevel f cs
  bracketRest f level [] rest

end MessageCatalog.Exclusion
