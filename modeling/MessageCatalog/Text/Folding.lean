import MessageCatalog.Text.Ranges

/-! # Case folding

Two characters are variants of each other when they fold to the same character.  The folding is
the simple one, from one character to one character.  Most letters fold by whole runs: either a
run of code points is shifted to another place, or every second character of a run folds to its
successor.
-/

namespace MessageCatalog.Text

/-- The code points from `first` to `last` fold to as many code points from `target` on. -/
structure FoldRun where
  first : Nat
  last : Nat
  target : Nat
deriving Repr

namespace FoldRun

/-- Read one entry of a row, a range and the place it folds to, as `41-5a:61`. -/
def entry? (cs : List Char) : Option FoldRun :=
  match cs.splitOn ':' with
  | [range, target] => (Ranges.entry? range).bind fun (a, b) =>
      (unsigned? 16 target).map fun t => ⟨a, b, t⟩
  | _ => none

/-- Read the rows of a table. -/
def ofRows (rows : List String) : List FoldRun :=
  rows.flatMap fun row => (row.toList.splitOn ' ').filterMap entry?

/-- What a code point of the run folds to. -/
def target? (r : FoldRun) (n : Nat) : Option Nat :=
  if r.first ≤ n && n ≤ r.last then some (r.target + (n - r.first)) else none

/-- The code point of the run that folds to `n`. -/
def source? (r : FoldRun) (n : Nat) : Option Nat :=
  if r.target ≤ n && n ≤ r.target + (r.last - r.first) then some (r.first + (n - r.target))
  else none

end FoldRun

/-- Runs that fold to another place. -/
def shiftedTable : List FoldRun := FoldRun.ofRows [
  "41-5a:61 b5:3bc c0-d6:e0 d8-de:f8 178:ff 17f:73 181:253 186:254 189-18a:256 18e:1dd 18f:259",
  "190:25b 193:260 194:263 196:269 197:268 19c:26f 19d:272 19f:275 1a6:280 1a9:283 1ae:288",
  "1b1-1b2:28a 1b7:292 1c4:1c6 1c7:1c9 1ca:1cc 1f1:1f3 1f6:195 1f7:1bf 220:19e 23a:2c65 23d:19a",
  "23e:2c66 243:180 244:289 245:28c 345:3b9 37f:3f3 386:3ac 388-38a:3ad 38c:3cc 38e-38f:3cd",
  "391-3a1:3b1 3a3-3ab:3c3 3cf:3d7 3d0:3b2 3d1:3b8 3d5:3c6 3d6:3c0 3f0:3ba 3f1:3c1 3f4:3b8",
  "3f5:3b5 3f9:3f2 3fd-3ff:37b 400-40f:450 410-42f:430 4c0:4cf 531-556:561 10a0-10c5:2d00",
  "10c7:2d27 10cd:2d2d 13f8-13fd:13f0 1c80:432 1c81:434 1c82:43e 1c83-1c84:441 1c85:442",
  "1c86:44a 1c87:463 1c88:a64b 1c90-1cba:10d0 1cbd-1cbf:10fd 1e9b:1e61 1e9e:df 1f08-1f0f:1f00",
  "1f18-1f1d:1f10 1f28-1f2f:1f20 1f38-1f3f:1f30 1f48-1f4d:1f40 1f59:1f51 1f5b:1f53 1f5d:1f55",
  "1f5f:1f57 1f68-1f6f:1f60 1f88-1f8f:1f80 1f98-1f9f:1f90 1fa8-1faf:1fa0 1fb8-1fb9:1fb0",
  "1fba-1fbb:1f70 1fbc:1fb3 1fbe:3b9 1fc8-1fcb:1f72 1fcc:1fc3 1fd8-1fd9:1fd0 1fda-1fdb:1f76",
  "1fe8-1fe9:1fe0 1fea-1feb:1f7a 1fec:1fe5 1ff8-1ff9:1f78 1ffa-1ffb:1f7c 1ffc:1ff3 2126:3c9",
  "212a:6b 212b:e5 2132:214e 2160-216f:2170 24b6-24cf:24d0 2c00-2c2f:2c30 2c62:26b 2c63:1d7d",
  "2c64:27d 2c6d:251 2c6e:271 2c6f:250 2c70:252 2c7e-2c7f:23f a77d:1d79 a78d:265 a7aa:266",
  "a7ab:25c a7ac:261 a7ad:26c a7ae:26a a7b0:29e a7b1:287 a7b2:29d a7b3:ab53 a7c4:a794 a7c5:282",
  "a7c6:1d8e a7cb:264 a7dc:19b ab70-abbf:13a0 ff21-ff3a:ff41 10400-10427:10428",
  "104b0-104d3:104d8 10570-1057a:10597 1057c-1058a:105a3 1058c-10592:105b3 10594-10595:105bb",
  "10c80-10cb2:10cc0 10d50-10d65:10d70 118a0-118bf:118c0 16e40-16e5f:16e60 1e900-1e921:1e922"]

/-- Runs in which the first of every two characters folds to the second. -/
def pairedTable : Ranges := .ofRows [
  "100-12e 132-136 139-147 14a-176 179-17d 182-184 187 18b 191 198 1a0-1a4 1a7 1ac 1af 1b3-1b5",
  "1b8 1bc 1c5 1c8 1cb-1db 1de-1ee 1f2-1f4 1f8-21e 222-232 23b 241 246-24e 370-372 376 3c2",
  "3d8-3ee 3f7 3fa 460-480 48a-4be 4c1-4cd 4d0-52e 1c89 1e00-1e94 1ea0-1efe 2183 2c60 2c67-2c6b",
  "2c72 2c75 2c80-2ce2 2ceb-2ced 2cf2 a640-a66c a680-a69a a722-a72e a732-a76e a779-a77b",
  "a77e-a786 a78b a790-a792 a796-a7a8 a7b4-a7c2 a7c7-a7c9 a7cc a7d0 a7d6-a7da a7f5"]

/-- The code point is the first of a pair. -/
def isPairFirst (n : Nat) : Bool :=
  pairedTable.ranges.any fun (a, b) => a ≤ n && n ≤ b && (n - a) % 2 = 0

/-- What a code point folds to. -/
def foldCode (n : Nat) : Nat :=
  match shiftedTable.findSome? (·.target? n) with
  | some m => m
  | none => if isPairFirst n then n + 1 else n

/-- The code points that fold to `n`, itself apart. -/
def foldSources (n : Nat) : List Nat :=
  let shifted := shiftedTable.filterMap (·.source? n)
  if 0 < n && isPairFirst (n - 1) then (n - 1) :: shifted else shifted

/-- The characters that differ from `c` in case only, and `c` itself. -/
def caseVariants (c : Char) : List Char :=
  let folded := foldCode c.toNat
  c :: (folded :: foldSources folded).map Char.ofNat

end MessageCatalog.Text
