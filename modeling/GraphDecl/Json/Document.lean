import GraphDecl.Json.Token

/-!
# JSON documents

`Doc` is a document as far as it can be read: the tree of its values, with every fault at the place
where a reader meets it. What the text holds behind a fault of the grammar is not in the tree, as no
reader gets there. Whether a value is wanted or skipped is not decided here, so one tree serves
every decoder: `Doc.skip` gives the first fault of a value that is passed over and `Doc.scan` that
of a value read in full.
-/

namespace GraphDecl.Json

/-- How the items of an array or the members of an object end. -/
inductive Ending
  | closed
  | broken (f : Fault)

/-- A value of the document. -/
inductive Doc
  /-- No value starts here. -/
  | absent (f : Fault)
  /-- A keyword goes wrong behind its first letter. -/
  | misspelt (f : Fault)
  | null
  | bool (b : Bool)
  | number (n : Token Number)
  | string (s : Token String)
  | array (items : List Doc) (ending : Ending)
  | object (members : List (Token String × Doc)) (ending : Ending)

/-- The root of a document and whether anything but blanks stands behind it. -/
structure Document where
  root : Doc
  trailing : Bool

/-- What a reader reports to have found, without a look into arrays and objects. -/
def Doc.found : Doc → Except Fault Found
  | .absent f | .misspelt f => .error f
  | .null => .ok .null
  | .bool b => .ok (.bool b)
  | .number n => n.read.map fun
    | .integer i => .integer i
    | .float x => .float x
  | .string s => s.read.map .string
  | .array _ _ => .ok .sequence
  | .object _ _ => .ok .map

/-! ## Reading the text -/

def isBlank (c : Char) : Bool := c == ' ' || c == '\t' || c == '\n' || c == '\r'

def skipBlanks (cs : List Char) : List Char := cs.dropWhile isBlank

/-- The text behind `word`, or the fault of the first place where it differs. -/
def expect : List Char → List Char → Except Fault (List Char)
  | [], cs => .ok cs
  | _ :: _, [] => .error .truncated
  | w :: word, c :: cs => if w = c then expect word cs else .error .malformed

/-- A keyword behind its first letter. -/
def keyword (word : List Char) (value : Doc) (cs : List Char) : Doc × List Char :=
  match expect word cs with
  | .ok rest => (value, rest)
  | .error f => (.misspelt f, [])

/-- What stands for a member where a key is due and none comes. -/
def noMember (f : Fault) : Token String × Doc := (.cut f f, .absent f)

mutual

/-- The value at the head of the text and the text behind it. Each step down into a value and each
step on to the next item or member takes one unit of fuel. -/
def readValue : Nat → List Char → Doc × List Char
  | 0, _ => (.absent .truncated, [])
  | fuel + 1, cs =>
    match skipBlanks cs with
    | [] => (.absent .truncated, [])
    | c :: rest =>
      if c = '"' then
        let r := scanString rest
        (.string r.1, r.2)
      else if c = '[' then
        match skipBlanks rest with
        | [] => (.array [] (.broken .truncated), [])
        | d :: rest' =>
          if d = ']' then (.array [] .closed, rest')
          else
            let r := readItems fuel (d :: rest')
            (.array r.1 r.2.1, r.2.2)
      else if c = '\x7b' then
        match skipBlanks rest with
        | [] => (.object [] (.broken .truncated), [])
        | d :: rest' =>
          if d = '\x7d' then (.object [] .closed, rest')
          else
            let r := readMembers fuel (d :: rest')
            (.object r.1 r.2.1, r.2.2)
      else if c = 'n' then keyword ['u', 'l', 'l'] .null rest
      else if c = 't' then keyword ['r', 'u', 'e'] (.bool true) rest
      else if c = 'f' then keyword ['a', 'l', 's', 'e'] (.bool false) rest
      else if c = '-' || c.isDigit then
        let r := scanNumber (c :: rest)
        (.number r.1, r.2)
      else (.absent .malformed, [])

/-- The items of an array from the head of an item on. -/
def readItems : Nat → List Char → List Doc × Ending × List Char
  | 0, _ => ([], .broken .truncated, [])
  | fuel + 1, cs =>
    let r := readValue fuel cs
    match skipBlanks r.2 with
    | [] => ([r.1], .broken .truncated, [])
    | c :: rest =>
      if c = ']' then ([r.1], .closed, rest)
      else if c = ',' then
        let r' := readItems fuel rest
        (r.1 :: r'.1, r'.2)
      else ([r.1], .broken .malformed, [])

/-- The members of an object from the head of a member on. Where no key stands, a member without one
ends the list. -/
def readMembers : Nat → List Char → List (Token String × Doc) × Ending × List Char
  | 0, _ => ([], .broken .truncated, [])
  | fuel + 1, cs =>
    match skipBlanks cs with
    | [] => ([noMember .truncated], .broken .truncated, [])
    | q :: rest =>
      if q = '"' then
        let k := scanString rest
        match skipBlanks k.2 with
        | [] => ([(k.1, .absent .truncated)], .broken .truncated, [])
        | c :: rest =>
          if c = ':' then
            let r := readValue fuel rest
            match skipBlanks r.2 with
            | [] => ([(k.1, r.1)], .broken .truncated, [])
            | d :: rest' =>
              if d = '\x7d' then ([(k.1, r.1)], .closed, rest')
              else if d = ',' then
                let r' := readMembers fuel rest'
                ((k.1, r.1) :: r'.1, r'.2)
              else ([(k.1, r.1)], .broken .malformed, [])
          else ([(k.1, .absent .malformed)], .broken .malformed, [])
      else ([noMember .malformed], .broken .malformed, [])

end

/-- The document of a text. A step on takes a character and a step down needs a bracket or a colon
before it, so two units of fuel for each character are enough. -/
def Document.ofText (s : String) : Document :=
  let cs := s.toList
  let r := readValue (2 * cs.length + 2) cs
  ⟨r.1, !(skipBlanks r.2).isEmpty⟩

/-! ## Passing over and reading in full -/

/-- The fault with which a container ends for a reader that wants items or keys. -/
def Ending.check : Ending → Except Fault Unit
  | .closed => .ok ()
  | .broken f => .error f

mutual

/-- The first fault of a value that is passed over. -/
def Doc.skip : Doc → Except Fault Unit
  | .absent f | .misspelt f => .error f
  | .null | .bool _ => .ok ()
  | .number n => n.skip
  | .string s => s.skip
  | .array items ending => do
    Doc.skipItems items
    ending.check
  | .object members ending => do
    Doc.skipMembers members
    ending.check

def Doc.skipItems : List Doc → Except Fault Unit
  | [] => .ok ()
  | d :: rest => do
    d.skip
    Doc.skipItems rest

def Doc.skipMembers : List (Token String × Doc) → Except Fault Unit
  | [] => .ok ()
  | (k, d) :: rest => do
    k.skip
    d.skip
    Doc.skipMembers rest

end

/-- How many arrays and objects may be nested in each other where they are read. -/
def nestingLimit : Nat := 127

mutual

/-- The first fault of a value that is read in full and may nest `room` deep. -/
def Doc.scan : Nat → Doc → Except Fault Unit
  | _, .absent f | _, .misspelt f => .error f
  | _, .null | _, .bool _ => .ok ()
  | _, .number n => n.read.map fun _ => ()
  | _, .string s => s.read.map fun _ => ()
  | 0, .array _ _ | 0, .object _ _ => .error .malformed
  | room + 1, .array items ending => do
    Doc.scanItems room items
    ending.check
  | room + 1, .object members ending => do
    Doc.scanMembers room members
    ending.check

def Doc.scanItems : Nat → List Doc → Except Fault Unit
  | _, [] => .ok ()
  | room, d :: rest => do
    d.scan room
    Doc.scanItems room rest

def Doc.scanMembers : Nat → List (Token String × Doc) → Except Fault Unit
  | _, [] => .ok ()
  | room, (k, d) :: rest => do
    discard k.read
    d.scan room
    Doc.scanMembers room rest

end

end GraphDecl.Json
