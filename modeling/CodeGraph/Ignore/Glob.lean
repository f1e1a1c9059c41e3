/-! # Glob patterns

Patterns for paths, as ignore files have them. A question mark stands for one byte and a star for
any number of bytes within a name; two stars between slashes stand for any number of directories;
brackets hold a set of bytes and braces several patterns to choose from. Paths are matched byte by
byte. -/

namespace CodeGraph

/-- A part of a pattern. -/
inductive GlobPart where
  | literal (c : Char)
  /-- One byte within a name. -/
  | one
  /-- Any number of bytes within a name. -/
  | many
  /-- Any number of directories at the start. -/
  | anyDepthFirst
  /-- Everything below, at the end. -/
  | anyDepthLast
  /-- A slash, or any number of directories between slashes. -/
  | anyDepth
  /-- One byte of a set. The bytes are those of the characters given, and those between the last byte
  of the first and the first byte of the second character of a range. -/
  | set (negated : Bool) (ranges : List (Char × Char))
  /-- One of several patterns. -/
  | choice (branches : List (List GlobPart))
  deriving BEq, Repr, Inhabited

/-- Why a text is no pattern. -/
inductive GlobError where
  | invalidRange (first last : Char)
  | unopenedGroup
  | unclosedGroup
  | danglingEscape
  deriving BEq, DecidableEq, Repr, Inhabited

/-- The error in words. -/
def GlobError.message : GlobError → String
  | invalidRange first last => s!"invalid range; '{first}' > '{last}'"
  | unopenedGroup => "unopened alternate group; missing '\x7b' (maybe escape '\x7d' with '[\x7d]'?)"
  | unclosedGroup => "unclosed alternate group; missing '\x7d' (maybe escape '\x7b' with '[\x7b]'?)"
  | danglingEscape => "dangling '\\'"

/-- A pattern. -/
structure Glob where
  parts : List GlobPart
  deriving BEq, Repr, Inhabited

namespace Glob

/-! ## Reading patterns -/

/-- What follows a bracket that opens a set: the ranges, last first, and the text after the set;
`none` if the set is not closed. -/
def readSet (ranges : List (Char × Char)) (first inRange : Bool) :
    List Char → Except GlobError (Option (List (Char × Char) × List Char))
  | [] => .ok none
  | c :: rest =>
    let extend : Except GlobError (List (Char × Char)) := match ranges with
      | (a, _) :: older => if c < a then .error (.invalidRange a c) else .ok ((a, c) :: older)
      | [] => .ok [(c, c)]
    if c == ']' && !first then
      .ok (some (if inRange then ('-', '-') :: ranges else ranges, rest))
    else if c == ']' then readSet ((']', ']') :: ranges) false inRange rest
    else if c == '-' && first then readSet (('-', '-') :: ranges) false false rest
    else if c == '-' && !inRange then readSet ranges false true rest
    else if inRange then do readSet (← extend) false false rest
    else readSet ((c, c) :: ranges) false false rest

/-- Whether a set is one of the bytes that it does not hold, and the text after the mark for
that. -/
def readNegation : List Char → Bool × List Char
  | '!' :: rest => (true, rest)
  | '^' :: rest => (true, rest)
  | cs => (false, cs)

/-- A group in braces that is still open: its complete branches, last first, and the parts read
before it, last first. -/
structure OpenGroup where
  branches : List (List GlobPart)
  before : List GlobPart
  deriving Inhabited

/-- A place in the reading of a pattern. -/
structure Reading where
  /-- The parts of the current branch, last first. -/
  parts : List GlobPart := []
  groups : List OpenGroup := []
  /-- The character before the next one. -/
  last : Option Char := none
  /-- A set was left open; brackets now stand for themselves. -/
  plainBrackets : Bool := false
  deriving Inhabited

namespace Reading

/-- Adds a part. -/
def push (r : Reading) (part : GlobPart) (last : Char) : Reading :=
  { r with parts := part :: r.parts, last := some last }

/-- Adds two stars that do not stand for directories. -/
def pushStars (r : Reading) : Reading :=
  { r with parts := .many :: .many :: r.parts, last := some '*' }

/-- Puts a part for any number of directories in place of the slash before the stars. -/
def replaceSlash (r : Reading) (part : GlobPart) (last : Char) : Reading :=
  let parts := match r.parts with
    | .anyDepthFirst :: _ | .anyDepthLast :: _ => r.parts
    | _ :: older => part :: older
    | [] => [part]
  { r with parts, last := some last }

/-- Two stars, given the text after them; the result leaves out what belongs to them. -/
def stars (r : Reading) (rest : List Char) : Reading × List Char :=
  if r.parts.isEmpty then
    match rest with
    | [] => (r.push .anyDepthFirst '*', [])
    | '/' :: rest' => (r.push .anyDepthFirst '/', rest')
    | _ => (r.pushStars, rest)
  else if r.last != some '/' then (r.pushStars, rest)
  else match rest with
    | [] => (r.replaceSlash .anyDepthLast '*', [])
    | '/' :: rest' => (r.replaceSlash .anyDepth '/', rest')
    | c :: _ =>
      if (c == ',' || c == '\x7d') && !r.groups.isEmpty then (r.replaceSlash .anyDepthLast '*', rest)
      else (r.pushStars, rest)

/-- Opens a group. -/
def openGroup (r : Reading) : Reading :=
  { r with parts := [], groups := ⟨[], r.parts⟩ :: r.groups, last := some '\x7b' }

/-- Ends a branch of the innermost group. -/
def nextBranch (r : Reading) (g : OpenGroup) (older : List OpenGroup) : Reading :=
  { r with
    parts := [], groups := { g with branches := r.parts.reverse :: g.branches } :: older
    last := some ',' }

/-- Closes the innermost group. -/
def closeGroup (r : Reading) (g : OpenGroup) (older : List OpenGroup) : Reading :=
  let part := GlobPart.choice (r.parts.reverse :: g.branches).reverse
  { r with parts := part :: g.before, groups := older, last := some '\x7d' }

end Reading

/-- `readSet` takes at least one character, so reading goes on with a shorter pattern. -/
theorem readSet_length {ranges : List (Char × Char)} {first inRange : Bool} {cs : List Char}
    {found : List (Char × Char)} {rest : List Char}
    (h : readSet ranges first inRange cs = .ok (some (found, rest))) : rest.length < cs.length := by
  induction cs generalizing ranges first inRange with
  | nil => simp [readSet] at h
  | cons c cs ih =>
    have step : ∀ {rs : List (Char × Char)} {f i : Bool},
        readSet rs f i cs = .ok (some (found, rest)) → rest.length < (c :: cs).length :=
      fun h' => Nat.lt_succ_of_lt (ih h')
    simp only [readSet] at h
    split at h
    · simp at h; simp [← h.2]
    · split at h
      · exact step h
      · split at h
        · exact step h
        · split at h
          · exact step h
          · split at h
            · simp only [bind, Except.bind] at h
              split at h
              · simp at h
              · exact step h
            · exact step h

/-- `readNegation` gives back no more than it was given. -/
theorem readNegation_length (cs : List Char) : (readNegation cs).2.length ≤ cs.length := by
  unfold readNegation
  split <;> simp

/-- `stars` gives back no more than it was given. -/
theorem stars_length (r : Reading) (rest : List Char) :
    (r.stars rest).2.length ≤ rest.length := by
  unfold Reading.stars
  split
  · split <;> simp
  · split
    · simp
    · split
      · simp
      · simp
      · split <;> simp

/-- Reads a pattern from its text. -/
def readFrom (r : Reading) : List Char → Except GlobError Reading
  | [] => .ok r
  | '?' :: rest => readFrom (r.push .one '?') rest
  | '*' :: '*' :: rest =>
    have := stars_length r rest
    readFrom (r.stars rest).1 (r.stars rest).2
  | '*' :: rest => readFrom (r.push .many '*') rest
  | '[' :: rest =>
    if r.plainBrackets then readFrom (r.push (.literal '[') '[') rest
    else
      match h : readSet [] true false (readNegation rest).2 with
      | .error e => .error e
      | .ok none => readFrom { r.push (.literal '[') '[' with plainBrackets := true } rest
      | .ok (some (ranges, rest')) =>
        have := readSet_length h
        have := readNegation_length rest
        readFrom (r.push (.set (readNegation rest).1 ranges.reverse) ']') rest'
  | '\x7b' :: rest => readFrom r.openGroup rest
  | '\x7d' :: rest => match r.groups with
    | g :: older => readFrom (r.closeGroup g older) rest
    | [] => .error .unopenedGroup
  | ',' :: rest => match r.groups with
    | g :: older => readFrom (r.nextBranch g older) rest
    | [] => readFrom (r.push (.literal ',') ',') rest
  | '\\' :: rest => match rest with
    | [] => .error .danglingEscape
    | c :: rest => readFrom (r.push (.literal c) c) rest
  | c :: rest => readFrom (r.push (.literal c) c) rest
termination_by cs => cs.length
decreasing_by all_goals (simp_all <;> omega)

/-- The pattern that a text writes. -/
def parse (text : String) : Except GlobError Glob := do
  let r ← readFrom {} text.toList
  if r.groups.isEmpty then .ok ⟨r.parts.reverse⟩ else .error .unclosedGroup

/-! ## Matching -/

/-- The bytes of a character. -/
def bytesOf (c : Char) : List UInt8 := c.toString.toUTF8.toList

/-- The byte that separates names. -/
def slash : UInt8 := 47

/-- Whether a byte is in the set of a range of characters. -/
def inRange (r : Char × Char) (b : UInt8) : Bool :=
  if r.1 == r.2 then (bytesOf r.1).contains b
  else
    let first := bytesOf r.1
    let last := bytesOf r.2
    let lo := first.getLast?.getD 0
    let hi := last.head?.getD 0
    first.dropLast.contains b || (lo ≤ b && b ≤ hi) || last.tail.contains b

/-- The rests of a text after a beginning. -/
def afterPrefix : List UInt8 → List UInt8 → List (List UInt8)
  | [], s => [s]
  | _ :: _, [] => []
  | p :: ps, b :: bs => if p == b then afterPrefix ps bs else []

/-- The rests of a text after any number of bytes within a name. -/
def afterName : List UInt8 → List (List UInt8)
  | [] => [[]]
  | b :: bs => if b == slash then [b :: bs] else (b :: bs) :: afterName bs

/-- The rests of a text after each of its slashes. -/
def afterSlashes : List UInt8 → List (List UInt8)
  | [] => []
  | b :: bs => if b == slash then bs :: afterSlashes bs else afterSlashes bs

/-- The rests of a text after any number of bytes. -/
def afterAny : List UInt8 → List (List UInt8)
  | [] => [[]]
  | b :: bs => (b :: bs) :: afterAny bs

/-- Texts of different lengths; of those of one length the first is kept. -/
def distinct (ss : List (List UInt8)) : List (List UInt8) :=
  (ss.foldl (fun (kept : List (Nat × List UInt8)) s =>
    let n := s.length
    if kept.any (·.1 == n) then kept else (n, s) :: kept) []).map (·.2)

mutual
/-- Whether a part stands for nothing at all. -/
def isVoid : GlobPart → Bool
  | .choice branches => areVoidBranches branches
  | _ => false

/-- Whether all parts stand for nothing at all. -/
def areVoid : List GlobPart → Bool
  | [] => true
  | p :: ps => isVoid p && areVoid ps

/-- Whether all branches stand for nothing at all. -/
def areVoidBranches : List (List GlobPart) → Bool
  | [] => true
  | b :: bs => areVoid b && areVoidBranches bs
end

mutual
/-- The rests of a text after what a part stands for. -/
def rests : GlobPart → List UInt8 → List (List UInt8)
  | .literal c, s => afterPrefix (bytesOf c) s
  | .one, s => match s with
    | b :: bs => if b == slash then [] else [bs]
    | [] => []
  | .many, s => afterName s
  | .anyDepthFirst, s => s :: afterSlashes s
  | .anyDepthLast, s => match s with
    | b :: bs => if b == slash then afterAny bs else []
    | [] => []
  | .anyDepth, s => match s with
    | b :: bs => if b == slash then bs :: afterSlashes bs else []
    | [] => []
  | .set negated ranges, s => match s with
    | b :: bs => if (ranges.any (inRange · b)) != negated then [bs] else []
    | [] => []
  | .choice branches, s => if areVoidBranches branches then [s] else restsOfAny branches s

/-- The rests of texts after what the parts stand for one after the other. -/
def restsOfAll : List GlobPart → List (List UInt8) → List (List UInt8)
  | [], ss => ss
  | p :: ps, ss => restsOfAll ps (distinct (ss.flatMap fun s => rests p s))

/-- The rests of a text after what any branch stands for; branches that stand for nothing do not
count. -/
def restsOfAny : List (List GlobPart) → List UInt8 → List (List UInt8)
  | [], _ => []
  | b :: bs, s => (if areVoid b then [] else restsOfAll b [s]) ++ restsOfAny bs s
end

/-- Whether a pattern matches a whole path. -/
def matchesBytes (g : Glob) (path : List UInt8) : Bool :=
  g.parts == [.anyDepthFirst] || (restsOfAll g.parts [path]).any (·.isEmpty)

/-- Whether a pattern matches a whole path. -/
def matchesPath (g : Glob) (path : String) : Bool := g.matchesBytes path.toUTF8.toList

end Glob

end CodeGraph
