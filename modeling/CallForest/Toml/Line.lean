import CallForest.Toml.Span

/-! # Between the words of TOML documents

Blanks, comments and newlines. A statement ends with its line, while the elements of an array may be
spread over many lines.

* `Toml.mark`: the reader of a given character.
* `Toml.skipBlank`, `Toml.skipLines`: what is left behind blanks, and behind blank lines as well.
* `Toml.newline?`, `Toml.newline`: what is left behind a newline.
* `Toml.endLine`: what is left behind the end of a statement's line. -/

namespace CallForest

namespace Toml

/-- Whether a character is a blank. -/
def isBlank (character : Char) : Bool := character = ' ' || character = '\t'

/-- Whether a character may stand in a comment. -/
def isCommentChar (character : Char) : Bool :=
  character = '\t' || (' ' ≤ character && character ≤ '~') || 0x80 ≤ character.toNat

/-- What is left behind the blanks. -/
def skipBlank (chars : List Char) : List Char := chars.dropWhile isBlank

/-- Skipping blanks leaves no more characters than there were. -/
theorem length_skipBlank_le (chars : List Char) : (skipBlank chars).length ≤ chars.length :=
  length_dropWhile_le isBlank chars

/-- Reads one given character. -/
def mark (wanted : Char) : Reader Unit
  | [] => .error (.here [])
  | first :: rest =>
    if first = wanted then .ok (.one ()) else .error (.here (first :: rest))

/-- What is left behind a newline, if there is one. -/
def newline? : List Char → Option (List Char)
  | '\n' :: rest => some rest
  | '\r' :: '\n' :: rest => some rest
  | _ => none

/-- A newline is at least one character. -/
theorem length_newline?_lt {chars rest : List Char} (found : newline? chars = some rest) :
    rest.length < chars.length := by
  unfold newline? at found
  split at found <;> grind

/-- What is left behind a newline. It is missed behind the character that stands in its place. -/
def newline (chars : List Char) : Except Fault (List Char) :=
  match newline? chars with
  | some rest => .ok rest
  | none => .error (.here chars.tail)

/-- A newline leaves fewer characters than there were. -/
theorem length_newline_lt {chars rest : List Char} (done : newline chars = .ok rest) :
    rest.length < chars.length := by
  unfold newline at done
  split at done
  · exact length_newline?_lt (by simp_all)
  · simp at done

/-- What is left behind a comment, if there is one. -/
def skipComment : List Char → List Char
  | '#' :: rest => rest.dropWhile isCommentChar
  | chars => chars

/-- Skipping a comment leaves no more characters than there were. -/
theorem length_skipComment_le (chars : List Char) : (skipComment chars).length ≤ chars.length := by
  unfold skipComment
  split
  · exact Nat.le_succ_of_le (length_dropWhile_le _ _)
  · exact Nat.le_refl _

/-- What is left behind the end of a line, in front of which only a comment may stand. The last line
may end with the document. -/
def endLine (chars : List Char) : Except Fault (List Char) :=
  let behind := skipComment (skipBlank chars)
  match behind with
  | [] => .ok []
  | _ :: _ =>
    match newline? behind with
    | some rest => .ok rest
    | none => .error (.here behind)

/-- The end of a line leaves no more characters than there were. -/
theorem length_endLine_le {chars rest : List Char} (done : endLine chars = .ok rest) :
    rest.length ≤ chars.length := by
  have within : (skipComment (skipBlank chars)).length ≤ chars.length :=
    Nat.le_trans (length_skipComment_le _) (length_skipBlank_le _)
  unfold endLine at done
  simp only at done
  split at done
  · simp_all
  · split at done
    · have := length_newline?_lt (by assumption)
      simp_all
      omega
    · simp at done

/-- The characters in front of which a newline must stand, if the next one begins a comment or a
newline. -/
def lineEnd? : List Char → Option (List Char)
  | '#' :: rest => some (rest.dropWhile isCommentChar)
  | '\n' :: rest => some ('\n' :: rest)
  | '\r' :: rest => some ('\r' :: rest)
  | _ => none

/-- The end of a line leaves no more characters than there were. -/
theorem length_lineEnd?_le {chars rest : List Char} (found : lineEnd? chars = some rest) :
    rest.length ≤ chars.length := by
  unfold lineEnd? at found
  split at found
  · rename_i behind
    have := length_dropWhile_le isCommentChar behind
    grind
  · simp_all
  · simp_all
  · simp at found

/-- What is left behind blanks, newlines and comments, each of which ends with its line. -/
def skipLines (chars : List Char) : Except Fault (List Char) :=
  have _blank := length_skipBlank_le chars
  match ends : lineEnd? (skipBlank chars) with
  | none => .ok (skipBlank chars)
  | some behind =>
    match done : newline behind with
    | .error fault => .error fault
    | .ok rest =>
      have _end := length_lineEnd?_le ends
      have _newline := length_newline_lt done
      skipLines rest
termination_by chars.length

/-- Skipping lines leaves no more characters than there were. -/
theorem length_skipLines_le {chars rest : List Char} (done : skipLines chars = .ok rest) :
    rest.length ≤ chars.length := by
  fun_induction skipLines chars with
  | case1 => simp_all
  | case2 => simp at done
  | case3 =>
    rename_i ih
    have := ih done
    omega

end Toml

end CallForest
