import CallForest.Shell.Regular
import CallForest.Shell.Tool.Copy

/-! # Tools that copy backwards

* `Shell.Tool.rev`: lines with their characters backwards.
* `Shell.Tool.tac`: files with their lines backwards. -/

namespace CallForest

namespace Shell

namespace Tool

/-- The lines of files with their characters backwards, and the greatest status of reading them. -/
def mirrored (name : Octets) : List Octets → ShellM (Octets × Nat)
  | [] => return ([], 0)
  | path :: rest => do
    let (text, status) ← match ← contentOf path with
      | .ok text =>
        let lines := (linesOf text).flatMap fun line =>
          (bare line).reverse ++ if line.getLast? = some '\n' then ['\n'] else []
        pure (lines, 0)
      | .error fault =>
        let shown := if path = "./-".toList then ['-'] else path
        report name ("cannot open ".toList ++ shown ++ ": ".toList ++ fault.text.toList)
        pure ([], 1)
    let (others, statuses) ← mirrored name rest
    return (text ++ others, max status statuses)

/-- Copies **lines with their characters backwards**. -/
def rev : Tool := fun words =>
  Usage.run {} words fun name given => do
    let paths := given.arguments.map fun path => if path = ['-'] then "./-".toList else path
    let (text, status) ← mirrored name (if paths.isEmpty then [['-']] else paths)
    print text
    return status

/-- The pieces of a text that end with a separator, the last one perhaps without it, at most `fuel`
of them. -/
def piecesEnding (find : Octets → Option (Octets × Octets)) : Nat → Octets → List Octets
  | 0, text => [text]
  | fuel + 1, text =>
    match text, find text with
    | [], _ => []
    | text, none => [text]
    | _, some (piece, behind) => piece :: piecesEnding find fuel behind

/-- The piece of a text up to the end of a separator, and what is behind it. -/
def endOf? (separator : Octets) : Octets → Option (Octets × Octets)
  | [] => none
  | first :: rest =>
    if separator.isPrefixOf (first :: rest) then
      some (separator, (first :: rest).drop separator.length)
    else (endOf? separator rest).map fun (piece, behind) => (first :: piece, behind)

/-- The pieces of a text that begin with a separator, given those that end with it. -/
def beginning (separator : Octets) : Octets → List Octets → List Octets
  | front, [] => if front.isEmpty then [] else [front]
  | front, piece :: rest =>
    if separator.isSuffixOf piece then
      let inside := front ++ piece.take (piece.length - separator.length)
      (if inside.isEmpty then [] else [inside]) ++ beginning separator separator rest
    else [front ++ piece] ++ beginning separator [] rest

/-- A text with its pieces backwards. -/
def backwardText (separator : Octets) (before : Bool) (text : Octets) : Octets :=
  let pieces := piecesEnding (endOf? separator) (text.length + 1) text
  (if before then beginning separator [] pieces else pieces).reverse.flatten

/-- The pieces of each of some files backwards, and the greatest status of reading them. -/
def backwards (name : Octets) (turn : Octets → Octets) : List Octets → ShellM (Octets × Nat)
  | [] => return ([], 0)
  | path :: rest => do
    let (text, status) ← match ← contentOf path with
      | .ok text => pure (turn text, 0)
      | .error fault =>
        if fault = .isDirectory || path = ['-'] then
          let shown := if path = ['-'] then quoted "standard input".toList else quotedIfNeeded path
          let fault := if fault = .isDirectory then .invalid else fault
          pure ([], ← reportFault name (shown ++ ": read error".toList) fault 1)
        else
          let about := "failed to open ".toList ++ quoted path ++ " for reading".toList
          pure ([], ← reportFault name about fault 1)
    let (others, statuses) ← backwards name turn rest
    return (text ++ others, max status statuses)

/-- How lines are copied backwards. -/
def tacUsage : Usage where
  plain := ['b', 'r']
  valued := ['s']
  long := [("before", 'b'), ("regex", 'r'), ("separator", 's')]

/-- Copies files with their lines backwards. -/
def tac : Tool := fun words =>
  tacUsage.run words fun name given => do
    let separator := (given.argument? 's').getD ['\n']
    let separator := if separator.isEmpty then ['\x00'] else separator
    let (text, status) ← backwards name (backwardText separator (given.has 'b')) (inputs given)
    print text
    closeInput name (inputs given) status

end Tool

end Shell

end CallForest
