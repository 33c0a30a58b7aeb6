import StoryRules.Decimal.Numeral
import StoryRules.Pattern.Escape
import StoryRules.Text.Identifier

/-!
# Reading patterns

A pattern is a choice of sequences of parts; parts are characters, sets, groups of many kinds and
repetitions of the part before.  The first problem stops the reader.
-/

namespace StoryRules.Pattern

open Read

/-! ## Sets -/

/-- One end of a range: a character or, if it cannot be one, a class. -/
def setMember (t : Token) : Read SetItem :=
  match t with
  | .plain c => return .code c.toNat
  | .escape c => setEscape c
  | .dangling => return .code 92

/-- The items of a set up to the closing bracket, which is an item itself where it comes first.  The
set starts at `start`; `items` are those before, the last one first. -/
def setItems (start : Nat) : (fuel : Nat) → (items : List SetItem) → Read (List SetItem)
  | 0, _ => failAt .unterminatedSet start
  | fuel + 1, items => do
    match ← take with
    | none => failAt .unterminatedSet start
    | some t =>
      if t = .plain ']' && !items.isEmpty then return items.reverse
      else
        let item ← setMember t
        if ← accept '-' then
          match ← take with
          | none => failAt .unterminatedSet start
          | some u =>
            if u = .plain ']' then return (.code '-'.toNat :: item :: items).reverse
            else
              let last ← setMember u
              match item, last with
              | .code m, .code n =>
                if n < m then fail (.badRange t.text u.text) (t.length + 1 + u.length)
                else setItems start fuel (.range m n :: items)
              | _, _ => fail (.badRange t.text u.text) (t.length + 1 + u.length)
        else setItems start fuel (item :: items)

/-- A set, behind its opening bracket. -/
def set : Read Node := do
  let start := (← get).offset - 1
  let negated ← accept '^'
  let items ← setItems start ((← get).tokens.length + 1) []
  return .set negated items

/-! ## Repetitions -/

/-- A count; there is none without digits. -/
def count (digits : List Char) (default : Nat) : Read Nat := do
  if digits.isEmpty then return default
  else if digits.length > digitLimit then throw (.fault (.countTooLong (some digits.length)))
  else
    let n := valueIn 10 digits
    if n ≥ countLimit then throw (.fault .countTooLarge) else return n

/-- The counts between braces, behind the opening one.  What does not fit is no repetition. -/
def bracedCounts : Read (Option (Nat × Nat)) := do
  if (← next?) = some (.plain '}') then return none
  else
    let start ← get
    let low ← takeRun Char.isDigit start.tokens.length
    let high ← if ← accept ',' then takeRun Char.isDigit start.tokens.length else pure low
    if ← accept '}' then
      let least ← count low 0
      let most ← count high countLimit
      if !high.isEmpty && most < least then failAt .countsReversed start.offset
      else return some (least, most)
    else
      modify fun _ => start
      return none

/-- The counts that a character asks for, if it is a repetition. -/
def counts (c : Char) : Read (Option (Nat × Nat)) := do
  match c with
  | '?' => return some (0, 1)
  | '*' => return some (0, countLimit)
  | '+' => return some (1, countLimit)
  | _ => bracedCounts

/-- Repeats the last of the nodes before; the repetition starts at `start`. -/
def repetition (start : Nat) (least most : Nat) (done : List Node) : Read (List Node) := do
  match done with
  | [] => failAt .nothingToRepeat start
  | body :: before =>
    if body.isAnchor then failAt .nothingToRepeat start
    else if body.isRepetition then failAt .multipleRepeat start
    else
      let greed ←
        if ← accept '?' then pure Greed.lazy
        else if ← accept '+' then pure Greed.possessive
        else pure Greed.greedy
      return .times greed least most body :: before

/-! ## Modes -/

/-- The mode of a letter. -/
def modeLetter? : Char → Option Modes
  | 'i' => some { ignoreCase := true }
  | 'm' => some { multiline := true }
  | 's' => some { dotAll := true }
  | 'x' => some { verbose := true }
  | 'a' => some { ascii := true }
  | 'u' => some { unicode := true }
  | 't' => some { plain := true }
  | _ => none

/-- Whether a letter is a mode, if only one that is refused. -/
def isModeLetter (c : Char) : Bool := c = 'L' || (modeLetter? c).isSome

/-- What is wrong with a token that should have been a mode or the end of the modes. -/
def failMode {β : Type} (t : Token) (otherwise : Problem) : Read β :=
  match t with
  | .plain c => fail (if Text.isLetter c then .unknownInlineFlag else otherwise) t.length
  | _ => fail otherwise t.length

/-- The modes turned on from the letter `c` on, and the character that ends them. -/
def modesOn : (fuel : Nat) → (c : Char) → (on : Modes) → Read (Modes × Char)
  | 0, _, _ => fail .flagsUnfinished 0
  | fuel + 1, c, on => do
    if c = 'L' then fail .localeFlag 0
    else
      let on := on.union ((modeLetter? c).getD {})
      if (c = 'a' || c = 'u') && on.ascii && on.unicode then fail .alphabetsMixed 0
      else match ← take with
        | none => fail .flagsUnfinished 0
        | some (.plain d) =>
          if d = ')' || d = '-' || d = ':' then return (on, d)
          else if isModeLetter d then modesOn fuel d on
          else failMode (.plain d) .flagsUnfinished
        | some t => failMode t .flagsUnfinished

/-- The modes turned off from the letter `c` on, up to the colon. -/
def modesOff : (fuel : Nat) → (c : Char) → (off : Modes) → Read Modes
  | 0, _, _ => fail .colonMissing 0
  | fuel + 1, c, off => do
    if c = 'L' || c = 'a' || c = 'u' then fail .alphabetOff 0
    else
      let off := off.union ((modeLetter? c).getD {})
      match ← take with
      | none => fail .colonMissing 0
      | some (.plain d) =>
        if d = ':' then return off
        else if isModeLetter d then modesOff fuel d off
        else failMode (.plain d) .colonMissing
      | some t => failMode t .colonMissing

/-- The first letter behind the minus sign. -/
def firstOff : Read Char := do
  match ← take with
  | none => fail .flagMissing 0
  | some (.plain d) => if isModeLetter d then return d else failMode (.plain d) .flagMissing
  | some t => failMode t .flagMissing

/-- The modes that a group turns on and off, from its first letter or minus sign on.  Modes without a
group hold for the whole pattern; there is no group then. -/
def groupModes (c : Char) : Read (Option (Modes × Modes)) := do
  let fuel := (← get).tokens.length + 1
  let (on, ending) ← if c = '-' then pure (({} : Modes), '-') else modesOn fuel c {}
  if ending = ')' then
    modify fun r => { r with modes := r.modes.union on }
    return none
  else if on.plain then fail .wholeFlagOn 1
  else
    let off ← if ending = '-' then modesOff fuel (← firstOff) {} else pure {}
    if off.plain then fail .wholeFlagOff 1
    else if on.meets off then fail .flagOnAndOff 1
    else return some (on, off)

/-! ## Groups -/

/-- The beginning of a group, behind the opening parenthesis. -/
inductive GroupHead where
  /-- A group that captures, with its name. -/
  | capture (name : Option String)
  | modes (on off : Modes)
  | atomic
  | look (behind negated : Bool)
  /-- A condition on a group. -/
  | condition (number : Nat)
  /-- A whole group: a reference by name. -/
  | whole (n : Node)
  | comment
  /-- Modes for the whole pattern. -/
  | patternModes

/-- The closing parenthesis of a group that starts at `start`. -/
def close (start : Nat) : Read Unit := do
  if ← accept ')' then return else failAt .unterminatedGroup start

/-- A name of a group up to the character that ends it. -/
def groupName (terminator : Char) : Read String := do
  let name ← nameUntil terminator "group name"
  if Text.isIdentifier name then return name else fail (.badName name) (name.length + 1)

/-- The number of the group with a name. -/
def named (name : String) : Read Nat := do
  match (← get).names.get? name with
  | some number => return number
  | none => fail (.unknownName name) (name.length + 1)

def namedHead : Read GroupHead := do
  if ← accept '<' then return .capture (some (← groupName '>'))
  else if ← accept '=' then
    let name ← groupName ')'
    return .whole (← reference (← named name) (name.length + 1))
  else match ← take with
    | none => fail .unexpectedEnd 0
    | some t => fail (.unknownExtension ("P" ++ t.text)) (t.length + 2)

def behindHead : Read GroupHead := do
  match ← take with
  | none => fail .unexpectedEnd 0
  | some t =>
    if t = .plain '=' then return .look true false
    else if t = .plain '!' then return .look true true
    else fail (.unknownExtension ("<" ++ t.text)) (t.length + 2)

/-- A comment in a group that starts at `start`. -/
def commentHead (start : Nat) : Read GroupHead := do
  let _ ← skipTo ')'
  if (← next?).isNone then failAt .unterminatedComment start
  else
    advance
    return .comment

/-- The number that a condition is written with. -/
def conditionNumber (name : String) : Read Nat := do
  match Decimal.whole? Text.digitValue? digitLimit (Text.strip name) with
  | some (.ofNat number) =>
    if number = 0 then fail .badNumber (name.length + 1)
    else
      modify fun r =>
        if r.conditions.any (·.1 = number) then r
        else { r with conditions := r.conditions ++ [(number, r.offset - name.length - 1)] }
      return number
  | _ => fail (.badName name) (name.length + 1)

/-- A condition: a group by name or by number, which need not be there yet. -/
def conditionHead : Read GroupHead := do
  let name ← nameUntil ')' "group name"
  let number ← if Text.isIdentifier name then named name else conditionNumber name
  checkBehind number
  return .condition number

/-- The beginning of a group that starts at `start`. -/
def groupHead (start : Nat) : Read GroupHead := do
  if !(← accept '?') then return .capture none
  else match ← take with
    | none => fail .unexpectedEnd 0
    | some (.plain 'P') => namedHead
    | some (.plain ':') => return .modes {} {}
    | some (.plain '#') => commentHead start
    | some (.plain '=') => return .look false false
    | some (.plain '!') => return .look false true
    | some (.plain '<') => behindHead
    | some (.plain '(') => conditionHead
    | some (.plain '>') => return .atomic
    | some (.plain c) =>
      if c = '-' || isModeLetter c then
        match ← groupModes c with
        | some (on, off) => return .modes on off
        | none => return .patternModes
      else fail (.unknownExtension c.toString) 2
    | some t => fail (.unknownExtension t.text) (t.length + 1)

/-- Remembers for the time of a look behind that one is read; the number of the first group inside
stays that of the outermost one. -/
def insideBehind {β : Type} (behind : Bool) (body : Read β) : Read β := do
  if !behind then body
  else
    let outer := (← get).behindFrom
    modify fun r => { r with behindFrom := some (outer.getD r.nextGroup) }
    let b ← body
    modify fun r => { r with behindFrom := outer }
    return b

/-- What may stand between parts where blanks and comments are skipped. -/
def isVerboseSpace (c : Char) : Bool := c = ' ' || (9 ≤ c.toNat && c.toNat ≤ 13)

mutual

/-- Sequences with bars between them; `top` outside of all groups. -/
def alternatives : (fuel : Nat) → (verbose top : Bool) → Read (List Node)
  | 0, _, _ => fail .unexpectedEnd 0
  | fuel + 1, verbose, top => do
    let branch ← sequence fuel verbose top []
    match ← moreBranches fuel verbose top with
    | [] => return branch
    | branches => return [.either (branch :: branches)]

/-- The branches behind the first one. -/
def moreBranches : (fuel : Nat) → (verbose top : Bool) → Read (List (List Node))
  | 0, _, _ => fail .unexpectedEnd 0
  | fuel + 1, verbose, top => do
    if ← accept '|' then
      let r ← get
      let verbose := if top then r.modes.verbose else verbose
      let branch ← sequence fuel verbose false []
      let branches ← moreBranches fuel verbose top
      return branch :: branches
    else return []

/-- Parts up to a bar, a closing parenthesis or the end.  `first` at the start of the pattern;
`done` are the nodes before, the last one first. -/
def sequence : (fuel : Nat) → (verbose first : Bool) → (done : List Node) → Read (List Node)
  | 0, _, _, _ => fail .unexpectedEnd 0
  | fuel + 1, verbose, first, done => do
    match ← next? with
    | none => return done.reverse
    | some .dangling => return done.reverse
    | some (.escape c) =>
      advance
      sequence fuel verbose first ((← escape c) :: done)
    | some (.plain c) =>
      if c = '|' || c = ')' then return done.reverse
      else
        let start := (← get).offset
        advance
        if verbose && isVerboseSpace c then sequence fuel verbose first done
        else if verbose && c = '#' then
          let _ ← skipTo '\n'
          advance
          sequence fuel verbose first done
        else if c = '[' then sequence fuel verbose first ((← set) :: done)
        else if c = '.' then sequence fuel verbose first (.dot :: done)
        else if c = '^' then sequence fuel verbose first (.anchor .caret :: done)
        else if c = '$' then sequence fuel verbose first (.anchor .dollar :: done)
        else if c = '?' || c = '*' || c = '+' || c = '{' then
          match ← counts c with
          | some (least, most) =>
            sequence fuel verbose first (← repetition start least most done)
          | none => sequence fuel verbose first (.code c.toNat :: done)
        else if c = '(' then
          match ← groupHead start with
          | .comment => sequence fuel verbose first done
          | .patternModes =>
            let modes := (← get).modes
            if first && done.isEmpty then sequence fuel modes.verbose first done
            else failAt .lateFlags start
          | .whole n => sequence fuel verbose first (n :: done)
          | head => sequence fuel verbose first ((← group fuel verbose start head) :: done)
        else sequence fuel verbose first (.code c.toNat :: done)

/-- The rest of a group behind its beginning. -/
def group : (fuel : Nat) → (verbose : Bool) → (start : Nat) → GroupHead → Read Node
  | 0, _, _, _ => fail .unexpectedEnd 0
  | fuel + 1, verbose, start, head => do
    match head with
    | .capture name =>
      let number ← openGroup name
      let body ← alternatives fuel verbose false
      close start
      closeGroup number (Node.widthOf body)
      return .group (some number) {} {} body
    | .modes on off =>
      let body ← alternatives fuel ((verbose || on.verbose) && !off.verbose) false
      close start
      return .group none on off body
    | .atomic =>
      let body ← alternatives fuel verbose false
      close start
      return .atomic body
    | .look behind negated =>
      let body ← insideBehind behind (alternatives fuel verbose false)
      close start
      return .look behind negated body
    | .condition number =>
      let yes ← sequence fuel verbose false []
      let no ←
        if ← accept '|' then
          let no ← sequence fuel verbose false []
          if (← next?) = some (.plain '|') then fail .tooManyBranches 0 else pure no
        else pure []
      close start
      return .ifTaken number yes no
    | .whole n => return n
    | .comment | .patternModes => return .group none {} {} []

end

/-- A whole pattern. -/
def pattern : Read (List Node) := do
  checkDangling
  let body ← alternatives (4 * (← get).tokens.length + 4) false true
  let r ← get
  if r.modes.ascii && r.modes.unicode then throw (.fault .alphabetsMixed)
  else if !r.tokens.isEmpty then fail .unbalanced 0
  else match r.conditions.find? fun (number, _) => r.nextGroup ≤ number with
    | some (number, offset) => failAt (.unknownGroup number) offset
    | none => return body

end StoryRules.Pattern
