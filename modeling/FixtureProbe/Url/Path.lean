import FixtureProbe.Url.Percent

/-!
# Paths

A path is followed segment by segment: a segment of one full stop means the directory itself, and
one of two the directory above. What is read is kept as text, the last character first.
-/

namespace FixtureProbe
namespace Path

/-!
# Segments
-/

def isSlash (backslashes : Bool) (c : Char) : Bool :=
  c = '/' || (backslashes && c = '\\')

def isHere (segment : List Char) : Bool :=
  let small := segment.map Char.toLower
  small = ['.'] || small = ['%', '2', 'e']

def isAbove (segment : List Char) : Bool :=
  let small := segment.map Char.toLower
  small = ['.', '.'] || small = ['.', '%', '2', 'e'] || small = ['%', '2', 'e', '.'] ||
    small = ['%', '2', 'e', '%', '2', 'e']

/-- Whether a text is a letter and a colon or a bar, which name a drive. -/
def isDrive : List Char -> Bool
  | [letter, mark] => letter.isAlpha && (mark = ':' || mark = '|')
  | _ => false

def beginsWithDrive (segment : List Char) : Bool :=
  isDrive (segment.take 2) && (segment.drop 2).head?.all (· = '\\')

/-!
# Directories
-/

/-- Whether the slash at the end of a path may go: it is not the first, nor behind a drive. -/
def slashMayGo : List Char -> Bool
  | '/' :: before => before.contains '/' && !beginsWithDrive (before.takeWhile (· ≠ '/')).reverse
  | _ => false

def above (path : List Char) : List Char :=
  (if slashMayGo path then path.tail else path).dropWhile (· ≠ '/')

def withSlash (path : List Char) : List Char :=
  if path.head? = some '/' then path else '/' :: path

/-!
# Following a path
-/

structure Walk where
  /-- The path so far, the last character first. -/
  walked : List Char
  onDrive : Bool

namespace Walk

def root : Walk := ⟨['/'], false⟩

/-- Follows a segment, which may be followed by a slash; only files have drives. -/
def step (drives : Bool) (walk : Walk) (segment : List Char) (slash : Bool) : Walk :=
  let segment := Percent.encode Percent.inPath segment
  let close (path : List Char) := if slash then '/' :: path else path
  if isAbove segment then
    let path := above walk.walked
    { walk with walked := if slash then withSlash path else path }
  else if isHere segment then { walk with walked := withSlash walk.walked }
  else if drives && walk.walked = ['/'] && isDrive segment then
    ⟨close (':' :: segment.take 1 ++ walk.walked), true⟩
  else { walk with walked := close (segment.reverse ++ walk.walked) }

def follow (drives : Bool) (walk : Walk) : List (List Char) -> Walk
  | [] => walk
  | [segment] => walk.step drives segment false
  | segment :: rest => (walk.step drives segment true).follow drives rest

def text (walk : Walk) : String :=
  String.ofList walk.walked.reverse

def textWithOneSlash (walk : Walk) : String :=
  String.ofList ('/' :: walk.walked.reverse.dropWhile (· = '/'))

end Walk

/-- Follows a text from the root directory; its first slash is that of the root. -/
def follow (backslashes drives : Bool) (text : List Char) : Walk :=
  let text := if text.head?.any (isSlash backslashes) then text.tail else text
  Walk.root.follow drives (text.splitOnP (isSlash backslashes))

end Path
end FixtureProbe
