import DocSplice.Text.Basic

/-!
# Globs

A glob is a pattern for relative paths.  A question mark stands for one character and a star for
any number of them, but neither for a slash; two stars between slashes, or at either end, stand for
any number of directories.  Brackets hold a class of characters, braces hold alternatives, and a
backslash takes the meaning from the character behind it.

A glob is read as a list of tokens for each choice of its alternatives.  Matching is done on sets of
remainders: a token maps what is left of a path to everything that may be left behind it, and a path
matches when nothing can be left in the end.
-/

namespace DocSplice.Ignore

/-- A part of a glob. -/
inductive GlobToken where
  | literal (c : Char)
  /-- One character that is not a slash. -/
  | anyChar
  /-- Any number of characters that are no slashes. -/
  | star
  /-- Any number of directories at the start. -/
  | leadingDirectories
  /-- Whatever is below a directory. -/
  | everythingBelow
  /-- Any number of directories between two others. -/
  | innerDirectories
  /-- One character of the ranges, or one that is in none of them. -/
  | oneOf (negated : Bool) (ranges : List (Char × Char))
  deriving DecidableEq, Repr

namespace GlobToken

/-- What is left of a text behind each of its initial segments without a slash. -/
def afterSegment : Text → List Text
  | [] => [[]]
  | c :: t => if c = '/' then [c :: t] else (c :: t) :: afterSegment t

/-- What is left of a text behind each of its slashes. -/
def afterSlashes : Text → List Text
  | [] => []
  | c :: t => if c = '/' then t :: afterSlashes t else afterSlashes t

/-- What is left of a text behind each of its initial segments. -/
def afterAnything : Text → List Text
  | [] => [[]]
  | c :: t => (c :: t) :: afterAnything t

/-- What is left of a text behind a first character with the property. -/
def afterChar (p : Char → Bool) : Text → List Text
  | [] => []
  | c :: t => if p c then [t] else []

/-- What can be left of a text behind the token. -/
def remainders (t : Text) : GlobToken → List Text
  | .literal c => afterChar (· == c) t
  | .anyChar => afterChar (· != '/') t
  | .star => afterSegment t
  | .leadingDirectories => t :: afterSlashes t
  | .everythingBelow => (afterChar (· == '/') t).flatMap afterAnything
  | .innerDirectories => (afterChar (· == '/') t).flatMap fun rest => rest :: afterSlashes rest
  | .oneOf negated ranges =>
    afterChar (fun c => (ranges.any fun r => r.1 ≤ c && c ≤ r.2) != negated) t

end GlobToken

/-- A glob: the lists of tokens for the choices of its alternatives. -/
abbrev Glob := List (List GlobToken)

/-! ## Alternatives -/

/-- A class in brackets and what follows it, where the first character behind the bracket never
closes it; `first` says whether this is still to come. -/
def splitClass (first : Bool) : Text → Text × Text
  | [] => ([], [])
  | c :: t =>
    if c = ']' && !first then ([c], t)
    else
      let (inside, rest) := splitClass (first && (c == '!' || c == '^')) t
      (c :: inside, rest)

mutual

/-- The choices for a stretch of a glob up to the end, or up to the comma or brace that ends it
inside `depth` pairs of braces. -/
def choices? (fuel depth : Nat) (t : Text) : Option (List Text × Text) :=
  match fuel, t with
  | 0, _ => none
  | _, [] => if depth = 0 then some ([[]], []) else none
  | fuel + 1, c :: t =>
    if c = '\\' then
      match t with
      | [] => none
      | d :: t => (choices? fuel depth t).map fun r => (r.1.map fun s => c :: d :: s, r.2)
    else if c = '[' then
      let (inside, rest) := splitClass true t
      (choices? fuel depth rest).map fun r => (r.1.map fun s => c :: inside ++ s, r.2)
    else if c = '\x7b' then
      match alternatives? fuel (depth + 1) t with
      | none => none
      | some (heads, t) =>
        (choices? fuel depth t).map fun r =>
          (heads.flatMap fun head => r.1.map fun s => head ++ s, r.2)
    else if c = '\x7d' then if depth = 0 then none else some ([[]], c :: t)
    else if c = ',' && 0 < depth then some ([[]], c :: t)
    else (choices? fuel depth t).map fun r => (r.1.map fun s => c :: s, r.2)

/-- The choices between braces, whose opening brace was read. -/
def alternatives? (fuel depth : Nat) (t : Text) : Option (List Text × Text) :=
  match fuel with
  | 0 => none
  | fuel + 1 =>
    match choices? fuel depth t with
    | some (heads, ',' :: t) => (alternatives? fuel depth t).map fun r => (heads ++ r.1, r.2)
    | some (heads, '\x7d' :: t) => some (heads, t)
    | _ => none

end

/-! ## Tokens -/

/-- The ranges of a class, up to the bracket that closes it; `open?` says whether the last character
began a range. -/
def ranges? (first pending : Bool) (found : List (Char × Char)) :
    Text → Option (List (Char × Char) × Text)
  | [] => none
  | c :: t =>
    if c = ']' && !first then
      some (if pending then ('-', '-') :: found else found, t)
    else if c = '-' && !first && !pending then ranges? false true found t
    else
      match pending, found with
      | true, (low, _) :: rest => if c < low then none else ranges? false false ((low, c) :: rest) t
      | _, _ => ranges? false false ((c, c) :: found) t

/-- A class behind its opening bracket. -/
def class? : Text → Option (GlobToken × Text)
  | '!' :: t => (ranges? true false [] t).map fun r => (.oneOf true r.1, r.2)
  | '^' :: t => (ranges? true false [] t).map fun r => (.oneOf true r.1, r.2)
  | t => (ranges? true false [] t).map fun r => (.oneOf false r.1, r.2)

/-- What two stars become, and what follows them.  `before` holds the tokens read so far, the last
one first. -/
def doubleStar (before : List GlobToken) (afterSlash : Bool) (t : Text) :
    List GlobToken × Text :=
  let plain := (.star :: .star :: before, t)
  let between (rest : Text) (inner : GlobToken) : List GlobToken × Text :=
    match before with
    | .leadingDirectories :: _ => (before, rest)
    | .everythingBelow :: _ => (before, rest)
    | _ :: earlier => (inner :: earlier, rest)
    | [] => (.leadingDirectories :: before, rest)
  match t with
  | [] => if before.isEmpty || afterSlash then between [] .everythingBelow else plain
  | '/' :: rest => if before.isEmpty || afterSlash then between rest .innerDirectories else plain
  | _ => plain

/-- The tokens of a glob without alternatives. -/
def tokensFrom? (fuel : Nat) (before : List GlobToken) (afterSlash : Bool) (t : Text) :
    Option (List GlobToken) :=
  match fuel, t with
  | 0, _ => none
  | _, [] => some before.reverse
  | fuel + 1, c :: t =>
    if c = '\\' then
      match t with
      | [] => none
      | d :: t => tokensFrom? fuel (.literal d :: before) (d == '/') t
    else if c = '?' then tokensFrom? fuel (.anyChar :: before) false t
    else if c = '*' then
      match t with
      | '*' :: t =>
        let (before, rest) := doubleStar before afterSlash t
        tokensFrom? fuel before (rest.length < t.length) rest
      | t => tokensFrom? fuel (.star :: before) false t
    else if c = '[' then
      match class? t with
      | none => none
      | some (token, t) => tokensFrom? fuel (token :: before) false t
    else tokensFrom? fuel (.literal c :: before) (c == '/') t

namespace Glob

/-- Read a glob; one that is not well formed is none. -/
def read? (t : Text) : Option Glob := do
  let (choices, _) ← choices? (2 * t.length + 2) 0 t
  choices.mapM fun choice => tokensFrom? (choice.length + 1) [] false choice

/-- What can be left of a text behind all tokens. -/
def leftBehind (tokens : List GlobToken) (t : Text) : List Text :=
  tokens.foldl (fun left token => (left.flatMap token.remainders).eraseDups) [t]

/-- Whether tokens match a whole path.  Two stars alone match every path. -/
def tokensMatch (tokens : List GlobToken) (path : Text) : Bool :=
  tokens == [.leadingDirectories] || (leftBehind tokens path).any List.isEmpty

/-- Whether a glob matches a relative path. -/
def isMatch (g : Glob) (path : Text) : Bool := g.any fun tokens => tokensMatch tokens path

end Glob

end DocSplice.Ignore
