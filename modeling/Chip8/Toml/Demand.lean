/-
Chip8.Toml.Demand — the levels that the forms of a document take.

For every form there is a list of needs, in the order in which they come
up while its text is read. What a form takes hangs on the text alone, but
for two things that `Practice` keeps: a comparison takes a level only as
long as the part that makes it is new, and an offset from universal time
is worked out once.

The levels are counted from where a value begins. The items of an array
begin two levels further down, the values of an inline table three.
-/
import Chip8.Toml.Scalar

namespace Chip8.Toml

/-- How often parts of the reader were run, and the offsets that were met. -/
structure Practice where
  /-- Runs over basic strings, every character counted as one more. -/
  strings : Nat := 0
  escapes : Nat := 0
  /-- Parts of keys. -/
  keys : Nat := 0
  /-- Places where a comment was looked for. -/
  comments : Nat := 0
  offsets : List (List Char) := []

/-- The number of runs from which a part compares without a level. -/
def practised : Nat := 8

/-- A comparison in a part that runs for the given time. -/
def comparison (run least : Nat) : List Need :=
  if run < practised then [⟨least, .comparison⟩] else []

def routine (least : Nat) : List Need := [⟨least, .part⟩, ⟨least + 1, .call⟩]

/-- A refusal, which tells where in the text it happened. -/
def refusal (least : Nat) : List Need := routine least

def codePointNeeds (count least : Nat) (cs : List Char) : List Need :=
  let digits := cs.take count
  routine least ++
    if digits.length < count || (hexValue? digits).isNone then refusal (least + 2)
    else ⟨least + 2, .comparison⟩ ::
      (if (codePoint count cs).isNone then [⟨least + 3, .call⟩] else [])

/-- An escape, met for the given time; `cs` begins behind the backslash. -/
def escapeNeeds (lines : Bool) (run least : Nat) (cs : List Char) : List Need :=
  ⟨least, .part⟩ :: comparison run (least + 1) ++
    match cs with
    | 'u' :: rest => codePointNeeds 4 (least + 1) rest
    | 'U' :: rest => codePointNeeds 8 (least + 1) rest
    | c :: _ =>
        if lines && (isSpace c || c == '\n') then
          ⟨least + 1, .part⟩ :: (if (skipHiddenLine cs).isNone then refusal (least + 2) else [])
        else if (shortEscape? c).isSome then [] else refusal (least + 2)
    | [] => refusal (least + 2)

/-- The rest of a basic string. Over several lines, a mark is looked at to
see whether two more follow, and an escape is one level further down. -/
def basicRestNeeds (lines : Bool) (least : Nat) :
    Nat → Practice → List Char → List Need × Practice
  | 0, p, _ => ([], p)
  | fuel + 1, p, cs =>
      let further (p : Practice) (rest : List Char) : List Need × Practice :=
        basicRestNeeds lines least fuel { p with strings := p.strings + 1 } rest
      match cs with
      | [] => (refusal (least + 2), p)
      | '"' :: rest =>
          if !lines then ([], p)
          else match rest with
            | '"' :: '"' :: _ => ([⟨least + 1, .call⟩], p)
            | _ =>
                let (needs, p) := further p rest
                (⟨least + 1, .call⟩ :: needs, p)
      | '\\' :: rest =>
          let p := { p with escapes := p.escapes + 1 }
          let here := escapeNeeds lines p.escapes (least + if lines then 2 else 1) rest
          match escape lines rest with
          | none => (here, p)
          | some (_, rest) =>
              let (needs, p) := further p rest
              (here ++ needs, p)
      | c :: rest =>
          if if lines then isIllegalInLines c else isIllegal c then
            (⟨least + 1, .quotation⟩ :: refusal (least + 2), p)
          else further p rest

/-- A basic string behind its opening mark or marks. -/
def basicNeeds (lines : Bool) (least limit : Nat) (p : Practice) (cs : List Char) :
    List Need × Practice :=
  let p := { p with strings := p.strings + 1 }
  let first : Need := ⟨least, if lines then .call else .part⟩
  let compared := comparison p.strings (least + 1)
  let (needs, p) := basicRestNeeds lines least limit p cs
  (first :: compared ++ needs, p)

/-- A literal string on one line, behind its opening mark. -/
def literalNeeds (least : Nat) (cs : List Char) : List Need :=
  routine least ++ if (literalRest cs).isNone then refusal (least + 2) else []

def stringNeeds (limit : Nat) (p : Practice) (cs : List Char) : List Need × Practice :=
  match cs with
  | '"' :: '"' :: '"' :: rest => basicNeeds true 2 limit p (skipFirstLineFeed rest)
  | '"' :: rest => basicNeeds false 2 limit p rest
  | '\'' :: '\'' :: '\'' :: rest =>
      let whole := literalLinesRest [] (skipFirstLineFeed rest)
      ([⟨2, .call⟩, ⟨3, .call⟩] ++ if whole.isNone then refusal 4 else [], p)
  | '\'' :: rest => (literalNeeds 2 rest, p)
  | _ => ([], p)

/-- A part of the key of an entry of an inline table. At the end of the text
a comparison always takes a level. -/
def keyPartNeeds (limit : Nat) (p : Practice) (cs : List Char) : List Need × Practice :=
  let p := { p with keys := p.keys + 1 }
  match cs with
  | '"' :: rest =>
      let compared := comparison p.keys 5
      let (needs, p) := basicNeeds false 6 limit p rest
      (compared ++ needs, p)
  | '\'' :: rest => (comparison p.keys 5 ++ literalNeeds 6 rest, p)
  | c :: _ => (if isBare c then [⟨5, .part⟩] else comparison p.keys 5 ++ refusal 6, p)
  | [] => (⟨5, .comparison⟩ :: refusal 6, p)

def keyPartsNeeds (limit : Nat) : Nat → Practice → List Char → List Need × Practice
  | 0, p, _ => ([], p)
  | fuel + 1, p, cs =>
      let (here, p) := keyPartNeeds limit p cs
      match (keyPart limit cs).map fun (_, rest) => skipSpace rest with
      | some ('.' :: rest) =>
          let (needs, p) := keyPartsNeeds limit fuel p (skipSpace rest)
          (here ++ needs, p)
      | _ => (here, p)

/-- The key of an entry of an inline table. -/
def keyNeeds (limit : Nat) (p : Practice) (cs : List Char) : List Need × Practice :=
  let (needs, p) := keyPartsNeeds limit limit p cs
  (⟨4, .part⟩ :: needs, p)

def Practice.seekComment (p : Practice) : Practice := { p with comments := p.comments + 1 }

/-- Blanks, line feeds and comments in an array. They are skipped in turns,
until one finds nothing to skip. -/
def fillerNeeds : Nat → Practice → List Char → List Need × Practice
  | 0, p, _ => ([], p)
  | fuel + 1, p, cs =>
      let blank (c : Char) : Bool := isSpace c || c == '\n'
      let p := p.seekComment
      match cs.dropWhile blank with
      | [] => ([⟨4, .comparison⟩], p)
      | '#' :: rest =>
          let here := comparison p.comments 4 ++ routine 4
          match skipComment ('#' :: rest) with
          | none => (here ++ refusal 6, p)
          | some behind =>
              let (needs, p) := fillerNeeds fuel p behind
              (here ++ needs, p)
      | _ => (comparison p.comments 4, if cs.head?.any blank then p.seekComment else p)

/-- The text of the offset behind a date and a time, if hours and minutes
are given. -/
def offsetText? (cs : List Char) : Option (List Char) := do
  let (_, behind) ← date cs
  let (_, rest) ← timeBehind behind
  if (offset rest).1.isSome && !(rest.head?.any Char.isAlpha) then some (rest.take 6) else none

/-- An offset from universal time. One that was met is looked up. -/
def offsetNeeds (p : Practice) (text : List Char) : List Need × Practice :=
  if p.offsets.contains text then ([⟨4, .comparison⟩], p)
  else
    let p := { p with offsets := text :: p.offsets }
    (⟨3, .part⟩ :: comparison p.offsets.length 4, p)

/-- A value that begins with neither a mark nor a bracket. -/
def scalarNeeds (p : Practice) (cs : List Char) : List Need × Practice :=
  match date cs, scalar cs with
  | some _, result =>
      let (needs, p) := match offsetText? cs with
        | some text => offsetNeeds p text
        | none => ([], p)
      (⟨2, .call⟩ :: needs ++ (if result.isOk then [] else [⟨3, .call⟩]), p)
  | none, .ok (.bool _, _) => ([], p)
  | none, .error .malformed => (refusal 2, p)
  | none, _ => (if (specialFloat cs).isSome then [] else [⟨2, .call⟩], p)

end Chip8.Toml
