import PatternLint.Pattern.Escape
import PatternLint.Text.Identifier

/-!
# Reading a pattern

The reader walks through the tokens once.  An opening parenthesis puts the part read so far on a
stack of frames, and the closing one builds a node from the innermost frame; each step passes at
least one token, so the number of tokens bounds the number of steps.  Groups may be nested as deep as
they like.
-/

namespace PatternLint.Pattern

open PatternLint.Text

/-- Repeat counts stay below this number. -/
def repeatLimit : Nat := 4294967295

/-- Group numbers stay below this number. -/
def groupLimit : Nat := 1073741823

/-- A piece of a sequence: a node, or the nodes of a plain group, which may still be repeated as a
whole. -/
inductive Piece
  | node (n : Node)
  | plainGroup (nodes : List Node)

namespace Piece

def nodes : Piece → List Node
  | .node n => [n]
  | .plainGroup ns => ns

end Piece

/-- What a closing parenthesis builds. -/
inductive Opening
  | whole
  | plain
  | capture (index : Nat)
  | scoped (change : FlagChange)
  | atomic
  /-- A look-around; `outer` says which groups were known where the outermost look-behind starts. -/
  | look (behind negated : Bool) (outer : Option Nat)
  | choose (index : Nat)

structure Frame where
  opening : Opening
  /-- Offset of the opening parenthesis. -/
  start : Nat
  /-- Whether blanks and comments are skipped. -/
  verbose : Bool
  /-- Finished alternatives, the last one first. -/
  branches : List (List Node)
  /-- Pieces of the current alternative, the last one first. -/
  pieces : List Piece

/-- What is known of the groups. -/
structure Groups where
  /-- The number of the next group. -/
  next : Nat
  names : List (String × Nat)
  /-- Widths of the groups that are closed. -/
  closed : List (Nat × Width)
  /-- Where a look-behind is open, the number of the next group at its start. -/
  lookbehind : Option Nat
  /-- Groups that conditions name by number, with the offset of the first mention. -/
  mentioned : List (Nat × Nat)

namespace Groups

def initial : Groups := ⟨1, [], [], none, []⟩

def isClosed (g : Groups) (index : Nat) : Bool := (g.closed.lookup index).isSome

def widthOf (g : Groups) (index : Nat) : Width := (g.closed.lookup index).getD .zero

/-- Inside a look-behind only groups that were closed before it may be referred to. -/
def checkLookbehind (g : Groups) (index offset : Nat) : Except Refusal Unit :=
  match g.lookbehind with
  | none => .ok ()
  | some limit =>
    if !g.isClosed index then fail .openGroup offset
    else if limit ≤ index then fail .groupOfSameLookbehind offset
    else .ok ()

def mention (g : Groups) (index offset : Nat) : Groups :=
  if (g.mentioned.lookup index).isSome then g
  else { g with mentioned := g.mentioned ++ [(index, offset)] }

end Groups

structure State where
  reader : Reader
  frame : Frame
  outer : List Frame
  groups : Groups
  /-- The flags of the whole pattern. -/
  flags : List Flag

namespace State

def push (s : State) (p : Piece) : State :=
  { s with frame := { s.frame with pieces := p :: s.frame.pieces } }

def pushNode (s : State) (n : Node) : State := s.push (.node n)

def pushCode (s : State) (n : Nat) : State := s.pushNode (.char (.literal n))

/-- Opens a group; the current frame waits for its end. -/
def openGroup (s : State) (opening : Opening) (start : Nat) (verbose : Bool) : State :=
  { s with frame := ⟨opening, start, verbose, [], []⟩, outer := s.frame :: s.outer }

end State

/-! ## Alternatives -/

/-- The nodes of the current alternative. -/
def Frame.currentNodes (f : Frame) : List Node := f.pieces.reverse.flatMap Piece.nodes

/-- The first node of every alternative, if it is the same atom in all of them. -/
def commonHead? : List (List Node) → Option Node
  | [] => none
  | [] :: _ => none
  | (n :: _) :: rest =>
    if rest.all (fun b => match b with | [] => false | m :: _ => n.sameAtom m) then some n else none

/-- Takes the atoms that all alternatives start with out of them. -/
def splitCommon : Nat → List (List Node) → List Node × List (List Node)
  | 0, branches => ([], branches)
  | fuel + 1, branches =>
    match commonHead? branches with
    | none => ([], branches)
    | some n =>
      let (front, rest) := splitCommon fuel (branches.map List.tail)
      (n :: front, rest)

/-- The members of a set that does the work of one alternative. -/
def setItems? : List Node → Option (List SetItem)
  | [.char (.literal n)] => some [.code n]
  | [.char (.oneOf items)] => some items
  | _ => none

def dedup (items : List SetItem) : List SetItem :=
  items.foldl (fun acc i => if acc.contains i then acc else acc ++ [i]) []

/-- The nodes for a list of alternatives: common first atoms stand once, in front, and alternatives
of one character each are one set. -/
def alternatives (branches : List (List Node)) : List Node :=
  match branches with
  | [b] => b
  | _ =>
    let (front, rest) := splitCommon branches.flatten.length branches
    match rest.mapM setItems? with
    | some sets => front ++ [.char (.oneOf (dedup sets.flatten))]
    | none => front ++ [Node.altOf (rest.map Node.seqOf)]

/-! ## Character sets -/

/-- One end of a range or a member of a set, and how the pattern spells it. -/
def setMember (t : Token) (r : Reader) : Except Refusal (SetItem × Reader) :=
  match t with
  | .plain c => .ok (.code c.toNat, r)
  | .escaped c => setEscape c r
  | .dangling => .ok (.code 92, r)

/-- The members up to the closing bracket; `start` is the offset of the opening one. -/
def setItems (start : Nat) : Nat → List SetItem → Reader → Except Refusal (List SetItem × Reader)
  | 0, _, _ => fail .unterminatedSet start
  | fuel + 1, acc, r => do
    let (t?, r) ← r.get
    match t? with
    | none => fail .unterminatedSet start
    | some t =>
      if t = .plain ']' && !acc.isEmpty then return (acc, r)
      else
        let (first, r) ← setMember t r
        let (dash, r) ← r.accept '-'
        if !dash then setItems start fuel (acc ++ [first]) r
        else
          let (u?, r) ← r.get
          match u? with
          | none => fail .unterminatedSet start
          | some u =>
            if u = .plain ']' then return (acc ++ [first, .code 45], r)
            else
              let (last, r) ← setMember u r
              match first, last with
              | .code lo, .code hi =>
                if hi < lo then fail (.badRange t.text u.text) (r.pos - (t.length + 1 + u.length))
                else setItems start fuel (acc ++ [.range lo hi]) r
              | _, _ => fail (.badRange t.text u.text) (r.pos - (t.length + 1 + u.length))

/-- A set of one code point is that code point. -/
def setNode (negated : Bool) (items : List SetItem) : Node :=
  match dedup items, negated with
  | [.code n], false => .char (.literal n)
  | [.code n], true => .char (.notLiteral n)
  | items, false => .char (.oneOf items)
  | items, true => .char (.noneOf items)

def readSet (s : State) (r : Reader) : Except Refusal State := do
  let start := r.pos - 1
  let (negated, r) ← r.accept '^'
  let (items, r) ← setItems start (r.rest.length + 1) [] r
  return { s with reader := r }.pushNode (setNode negated items)

/-! ## Repeats -/

/-- The bounds that a repeat character stands for; `none` if a brace opens no repeat. -/
def repeatBounds (c : Char) (r : Reader) :
    Except Refusal (Option (Nat × Option Nat × Reader)) := do
  match c with
  | '?' => return some (0, some 1, r)
  | '*' => return some (0, none, r)
  | '+' => return some (1, none, r)
  | _ =>
    if r.sees '\x7d' then return none
    else
      let (lo, r₁) ← r.span r.rest.length isDecimalDigit
      let (comma, r₂) ← r₁.accept ','
      let (hi, r₃) ← if comma then r₂.span r₂.rest.length isDecimalDigit else pure (lo, r₂)
      let (closed, r₄) ← r₃.accept '\x7d'
      if !closed then return none
      else
        let least := numeral 10 lo
        let most := if hi.isEmpty then none else some (numeral 10 hi)
        if repeatLimit ≤ least || (most.any (repeatLimit ≤ ·)) then .error .repeatTooLarge
        else if most.any (· < least) then fail .minAboveMax r.pos
        else return some (least, most, r₄)

/-- The kind of a repeat, by the character behind it. -/
def loopMode (r : Reader) : Except Refusal (LoopMode × Reader) := do
  let (lazily, r) ← r.accept '?'
  if lazily then return (.reluctant, r)
  else
    let (whole, r) ← r.accept '+'
    return (if whole then .possessive else .greedy, r)

/-- Repeats the last piece; `r` stands behind the repeat character `c`. -/
def readRepeat (s : State) (c : Char) (r : Reader) : Except Refusal State := do
  match ← repeatBounds c r with
  | none => return { s with reader := r }.pushCode c.toNat
  | some (lo, hi, after) =>
    let offset := r.pos - 1
    match s.frame.pieces with
    | [] => fail .nothingToRepeat offset
    | last :: earlier =>
      let body ←
        match last with
        | .node (.anchor _) => fail .nothingToRepeat offset
        | .node (.loop _ _ _ _) => fail .multipleRepeat offset
        | .node n => pure n
        | .plainGroup ns => pure (Node.seqOf ns)
      let (mode, after) ← loopMode after
      return { s with
        reader := after
        frame := { s.frame with pieces := .node (.loop mode lo hi body) :: earlier } }

/-! ## Escapes outside sets -/

/-- A number behind a backslash: three octal digits are a code point, else it is a group. -/
def readNumber (s : State) (c : Char) (r : Reader) : Except Refusal State := do
  let (second, r) ← r.span 1 isDecimalDigit
  let octal := isOctalDigit c && !second.isEmpty && second.all isOctalDigit
  let (third, r) ← if octal then r.span 1 isOctalDigit else pure ([], r)
  let ds := c :: second ++ third
  if !third.isEmpty then
    let n := numeral 8 ds
    if n > 0o377 then failEscape .octalTooLarge ('\\' :: ds) r
    else return { s with reader := r }.pushCode n
  else
    let g := numeral 10 ds
    if s.groups.next ≤ g then fail (.invalidReference g) (r.pos - ds.length)
    else if !s.groups.isClosed g then fail .openGroup (r.pos - (ds.length + 1))
    else
      s.groups.checkLookbehind g r.pos
      return { s with reader := r }.pushNode (.backref g)

def readEscape (s : State) (c : Char) (r : Reader) : Except Refusal State :=
  match anchorEscape? c with
  | some a => .ok ({ s with reader := r }.pushNode (.anchor a))
  | none =>
    match categoryEscape? c with
    | some item => .ok ({ s with reader := r }.pushNode (.char (.oneOf [item])))
    | none =>
      match controlEscape? c with
      | some n => .ok ({ s with reader := r }.pushCode n)
      | none =>
        match codeEscape? c r with
        | some res => res.map fun (n, r) => { s with reader := r }.pushCode n
        | none =>
          if c == '0' then do
            let (ds, r) ← r.span 2 isOctalDigit
            return { s with reader := r }.pushCode (numeral 8 ds)
          else if isDecimalDigit c then readNumber s c r
          else (plainEscape c r).map fun (n, r) => { s with reader := r }.pushCode n

/-! ## Groups -/

/-- The letters of the flags that are switched on, up to the first character that is none. -/
def flagsOn : Nat → List Flag → Token → Reader → Except Refusal (List Flag × Char × Reader)
  | 0, _, _, r => fail (.missing "-, : or )") r.pos
  | fuel + 1, acc, t, r => do
    let flag? := match t with | .plain c => Flag.ofChar? c | _ => none
    match flag? with
    | none => fail (.missing "-, : or )") r.pos
    | some flag =>
      if flag = .locale then fail .localeFlag r.pos
      else
        let acc := if acc.contains flag then acc else acc ++ [flag]
        if flag.isAlphabet && acc.any (fun f => f.isAlphabet && f != flag) then
          fail .alphabetFlags r.pos
        else
          let (u?, r) ← r.get
          match u? with
          | none => fail (.missing "-, : or )") r.pos
          | some (.plain c) =>
            if c == ')' || c == '-' || c == ':' then return (acc, c, r)
            else if (Flag.ofChar? c).isSome then flagsOn fuel acc (.plain c) r
            else if isLetter c.toNat then fail .unknownFlag (r.pos - 1)
            else fail (.missing "-, : or )") (r.pos - 1)
          | some u => fail (.missing "-, : or )") (r.pos - u.length)

/-- The letters of the flags that are switched off, up to the colon. -/
def flagsOff : Nat → List Flag → String → Reader → Except Refusal (List Flag × Reader)
  | 0, _, what, r => fail (.missing what) r.pos
  | fuel + 1, acc, what, r => do
    let (t?, r) ← r.get
    match t? with
    | none => fail (.missing what) r.pos
    | some (.plain c) =>
      if c == ':' && !acc.isEmpty then return (acc, r)
      else
        match Flag.ofChar? c with
        | some flag =>
          if flag.isAlphabet then fail .alphabetOff r.pos
          else flagsOff fuel (if acc.contains flag then acc else acc ++ [flag]) ":" r
        | none =>
          if isLetter c.toNat then fail .unknownFlag (r.pos - 1)
          else fail (.missing what) (r.pos - 1)
    | some t => fail (.missing what) (r.pos - t.length)

/-- Flags behind `(?`; `t` is their first token.  Without a colon they hold for the whole pattern. -/
def readFlags (s : State) (start : Nat) (t : Token) (r : Reader) : Except Refusal State := do
  let fuel := r.rest.length + 1
  let (on, stop, r) ← if t = .plain '-' then pure ([], '-', r) else flagsOn fuel [] t r
  if stop == ')' then
    if !s.outer.isEmpty || !s.frame.branches.isEmpty || !s.frame.pieces.isEmpty then
      fail .flagsNotAtStart start
    else
      let flags := s.flags ++ on
      return { s with
        reader := r
        flags := flags
        frame := { s.frame with verbose := flags.contains .verbose } }
  else if on.contains .template then fail .wholePatternFlagOn (r.pos - 1)
  else
    let (off, r) ← if stop == '-' then flagsOff fuel [] "flag" r else pure ([], r)
    if off.contains .template then fail .wholePatternFlagOff (r.pos - 1)
    else if on.any off.contains then fail .flagOnAndOff (r.pos - 1)
    else
      let verbose := (s.frame.verbose || on.contains .verbose) && !off.contains .verbose
      return { s with reader := r }.openGroup (.scoped ⟨on, off⟩) start verbose

/-- Opens a group that records, with or without a name. -/
def openCapture (s : State) (start : Nat) (name : Option (List Char)) (r : Reader) :
    Except Refusal State :=
  let g := s.groups.next
  let groups := { s.groups with next := g + 1 }
  match name with
  | none =>
    .ok ({ s with reader := r, groups := groups }.openGroup (.capture g) start s.frame.verbose)
  | some cs =>
    let text := String.ofList cs
    match s.groups.names.lookup text with
    | some earlier => fail (.redefinedGroup text g earlier) (r.pos - (cs.length + 1))
    | none =>
      let groups := { groups with names := (text, g) :: groups.names }
      .ok ({ s with reader := r, groups := groups }.openGroup (.capture g) start s.frame.verbose)

def checkName (cs : List Char) (r : Reader) : Except Refusal Unit :=
  if isIdentifier cs then .ok ()
  else fail (.badGroupName (String.ofList cs)) (r.pos - (cs.length + 1))

/-- A named reference back to a group. -/
def readBackref (s : State) (r : Reader) : Except Refusal State := do
  let (cs, r) ← r.name ')' "group name"
  checkName cs r
  let offset := r.pos - (cs.length + 1)
  match s.groups.names.lookup (String.ofList cs) with
  | none => fail (.unknownGroupName (String.ofList cs)) offset
  | some g =>
    if !s.groups.isClosed g then fail .openGroup offset
    else
      s.groups.checkLookbehind g r.pos
      return { s with reader := r }.pushNode (.backref g)

/-- Digits of any script with single low lines between them. -/
def digitGroups? : Nat → List Char → Option Nat
  | acc, [] => some acc
  | acc, '_' :: c :: rest =>
    match digitValue? c.toNat with
    | some d => digitGroups? (acc * 10 + d) rest
    | none => none
  | acc, c :: rest =>
    match digitValue? c.toNat with
    | some d => digitGroups? (acc * 10 + d) rest
    | none => none

/-- A natural number, possibly between blanks and behind a sign. -/
def groupNumber? (cs : List Char) : Option Nat :=
  let unsigned (ds : List Char) : Option Nat :=
    match ds with
    | [] => none
    | '_' :: _ => none
    | _ => digitGroups? 0 ds
  match strip cs with
  | '-' :: ds => (unsigned ds).filter (· == 0)
  | '+' :: ds => unsigned ds
  | ds => unsigned ds

/-- A group that a condition names; numbers may name a group that is still to come. -/
def readCondition (s : State) (start : Nat) (r : Reader) : Except Refusal State := do
  let (cs, r) ← r.name ')' "group name"
  let offset := r.pos - (cs.length + 1)
  let text := String.ofList cs
  let (g, groups) ←
    if isIdentifier cs then
      match s.groups.names.lookup text with
      | none => fail (.unknownGroupName text) offset
      | some g => pure (g, s.groups)
    else
      match groupNumber? cs with
      | none => fail (.badGroupName text) offset
      | some 0 => fail .badGroupNumber offset
      | some g =>
        if groupLimit ≤ g then fail (.invalidReference g) offset
        else pure (g, s.groups.mention g offset)
  groups.checkLookbehind g r.pos
  return { s with reader := r, groups := groups }.openGroup (.choose g) start s.frame.verbose

/-- Opens a look-around. -/
def openLook (s : State) (start : Nat) (behind negated : Bool) (r : Reader) : State :=
  let outer := s.groups.lookbehind
  let groups :=
    if behind && outer.isNone then { s.groups with lookbehind := some s.groups.next } else s.groups
  { s with reader := r, groups := groups }.openGroup (.look behind negated outer) start
    s.frame.verbose

/-- What follows `(?P`. -/
def readNamed (s : State) (start : Nat) (r : Reader) : Except Refusal State := do
  let (define, r) ← r.accept '<'
  if define then
    let (cs, r) ← r.name '>' "group name"
    checkName cs r
    openCapture s start (some cs) r
  else
    let (refer, r) ← r.accept '='
    if refer then readBackref s r
    else
      let (t?, r) ← r.get
      match t? with
      | none => fail .unexpectedEnd r.pos
      | some t => fail (.unknownExtension ("P" ++ t.text)) (r.pos - (t.length + 2))

/-- What follows `(?<`. -/
def readBehind (s : State) (start : Nat) (r : Reader) : Except Refusal State := do
  let (t?, r) ← r.get
  match t? with
  | none => fail .unexpectedEnd r.pos
  | some t =>
    if t = .plain '=' then return openLook s start true false r
    else if t = .plain '!' then return openLook s start true true r
    else fail (.unknownExtension ("<" ++ t.text)) (r.pos - (t.length + 2))

/-- What follows an opening parenthesis. -/
def readGroup (s : State) (r : Reader) : Except Refusal State := do
  let start := r.pos - 1
  let verbose := s.frame.verbose
  let (special, r) ← r.accept '?'
  if !special then openCapture s start none r
  else
    let (t?, r) ← r.get
    match t? with
    | none => fail .unexpectedEnd r.pos
    | some t =>
      match t with
      | .plain 'P' => readNamed s start r
      | .plain ':' => return { s with reader := r }.openGroup .plain start verbose
      | .plain '#' =>
        let (closed, r) ← r.skipPast ')'
        if closed then return { s with reader := r } else fail .unterminatedComment start
      | .plain '=' => return openLook s start false false r
      | .plain '!' => return openLook s start false true r
      | .plain '<' => readBehind s start r
      | .plain '(' => readCondition s start r
      | .plain '>' => return { s with reader := r }.openGroup .atomic start verbose
      | .plain c =>
        if c == '-' || (Flag.ofChar? c).isSome then readFlags s start t r
        else fail (.unknownExtension t.text) (r.pos - (t.length + 1))
      | _ => fail (.unknownExtension t.text) (r.pos - (t.length + 1))

/-! ## The walk -/

/-- The pieces that a finished group leaves in the frame around it. -/
def Frame.close (f : Frame) (groups : Groups) : Piece × Groups :=
  let branches := (f.currentNodes :: f.branches).reverse
  let nodes := alternatives branches
  let body := Node.seqOf nodes
  match f.opening with
  | .whole | .plain => (.plainGroup nodes, groups)
  | .capture g =>
    (.node (.group g body), { groups with closed := (g, body.width groups.widthOf) :: groups.closed })
  | .scoped change => (.node (.scoped change body), groups)
  | .atomic => (.node (.atomic body), groups)
  | .look false negated _ => (.node (.look .ahead negated body), groups)
  | .look true negated outer =>
    (.node (.look (.behind (body.width groups.widthOf)) negated body),
      { groups with lookbehind := outer })
  | .choose g =>
    match branches with
    | [yes] => (.node (.choose g (Node.seqOf yes) .empty), groups)
    | yes :: no :: _ => (.node (.choose g (Node.seqOf yes) (Node.seqOf no)), groups)
    | [] => (.node (.choose g .empty .empty), groups)

/-- Ends the current alternative at a bar. -/
def readBar (s : State) (r : Reader) : State :=
  { s with
    reader := r
    frame := { s.frame with branches := s.frame.currentNodes :: s.frame.branches, pieces := [] } }

/-- Ends the innermost group. -/
def readClose (s : State) (r : Reader) : Except Refusal State :=
  match s.outer with
  | [] => fail .unbalanced s.reader.pos
  | around :: outer =>
    let (piece, groups) := s.frame.close s.groups
    .ok ({ s with reader := r, frame := around, outer := outer, groups := groups }.push piece)

def isVerboseBlank (c : Char) : Bool := isAsciiBlank c.toNat

/-- Reads one token and what belongs to it; `r` stands behind the token. -/
def step (s : State) (t : Token) (r : Reader) : Except Refusal State :=
  match t with
  | .dangling => fail .danglingBackslash s.reader.pos
  | .escaped c => readEscape s c r
  | .plain c =>
    if c == '|' then .ok (readBar s r)
    else if c == ')' then readClose s r
    else if s.frame.verbose && isVerboseBlank c then .ok { s with reader := r }
    else if s.frame.verbose && c == '#' then do
      let (_, r) ← r.skipPast '\n'
      return { s with reader := r }
    else if c == '[' then readSet s r
    else if c == '?' || c == '*' || c == '+' || c == '\x7b' then readRepeat s c r
    else if c == '.' then .ok ({ s with reader := r }.pushNode (.char .any))
    else if c == '(' then readGroup s r
    else if c == '^' then .ok ({ s with reader := r }.pushNode (.anchor .lineStart))
    else if c == '$' then .ok ({ s with reader := r }.pushNode (.anchor .lineEnd))
    else .ok ({ s with reader := r }.pushCode c.toNat)

/-- Whether the walk stops before the next token: a parenthesis that closes nothing. -/
def State.atStop (s : State) : Bool := s.outer.isEmpty && s.reader.sees ')'

/-- Whether a bar would give a condition a third branch. -/
def State.atThirdBranch (s : State) : Bool :=
  s.reader.sees '|' &&
    match s.frame.opening with
    | .choose _ => !s.frame.branches.isEmpty
    | _ => false

/-- Walks through the tokens, at most `fuel` steps. -/
def walk : Nat → State → Except Refusal State
  | 0, s => .ok s
  | fuel + 1, s =>
    match s.reader.rest with
    | [] => .ok s
    | t :: rest =>
      if s.atStop then .ok s
      else if s.atThirdBranch then fail .tooManyBranches s.reader.pos
      else do
        let r ← Reader.at? rest (s.reader.pos + t.length)
        let s ← step s t r
        walk fuel s

end PatternLint.Pattern
