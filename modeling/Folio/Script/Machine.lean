import Folio.Event
import Folio.Script.Builtin
import Folio.Script.Reader

/-!
# Folio.Script.Machine

The machine that runs scripts, one small step at a time.  Its control is an
expression to evaluate, a value to hand on, or a signal that leaves what is
being evaluated; its frames say what waits for the value.  Every step is a
plain function, so that a run is bounded by the number of its steps.
-/

namespace Folio.Script

/-! ## States -/

/-- How much a script may use; zero stands for no limit. -/
structure Limits where
  /-- How many expressions may be evaluated. -/
  operations : Nat
  /-- How many bytes the texts of a value may have. -/
  textSize : Nat
deriving DecidableEq, Repr

/-- What leaves the expressions around it. -/
inductive Signal where
  | leaveLoop (value : Datum)
  | nextRound
  | giveBack (value : Datum)
  | raised (value : Datum)
  | fatal

/-- What a loop runs over. -/
inductive Items where
  | each (items : List Datum)
  | counted (next stop : Int)

/-- The next item of a loop, and the items after it. -/
def Items.next? : Items → Option (Datum × Items)
  | .each [] => none
  | .each (d :: rest) => some (d, .each rest)
  | .counted next stop => if next < stop then some (.int next, .counted (next + 1) stop) else none

/-- A link whose position or arguments have been evaluated. -/
inductive Step where
  | index (position : Datum)
  | member (name : String)
  | method (name : String) (args : List Datum)

/-- What a list of values is collected for. -/
inductive Use where
  | array
  | object (keys : List String)
  | template
  /-- A function is applied; the variable that its first argument is. -/
  | call (name : String) (receiver : Option String)
  /-- Links are followed from a variable, or else from the last value. -/
  | chain (root : Option String) (links : List Link)
  | assign (target : Expr) (operator : Option String)

/-- What waits for a value. -/
inductive Frame where
  | sequence (rest : List Expr)
  | leave (scope : List Slot)
  | declare (constant : Bool) (name : String)
  | collect (done : List Datum) (rest : List Expr) (use : Use)
  | branch (yes : Expr) (no : Option Expr)
  | both (right : Expr)
  | either (right : Expr)
  | truth
  | orElse (right : Expr)
  | whileTest (expected : Bool) (condition body : Expr)
  | whileBody (expected : Bool) (condition body : Expr)
  | doTest (expected : Bool) (condition body : Expr)
  | doBody (expected : Bool) (condition body : Expr)
  | forItems (name : String) (counter : Option String) (body : Expr)
  | forBody (scope : List Slot) (items : Items) (round : Nat) (name : String)
    (counter : Option String) (body : Expr)
  | choose (cases : List Case)
  | caseTest (subject : Datum) (body : Expr) (rest : List Case)
  | attempt (scope : List Slot) (level : Nat) (name : Option String) (handler : Expr)
  | discard
  | throw
  | giveBack
  | leaveLoop
  | call (scope : List Slot)
  | follow (steps : List Step)
  | mapping (f : Datum) (done rest : List Datum)
  | filtering (f : Datum) (item : Datum) (position : Nat) (kept rest : List Datum)

/-- What the machine does next. -/
inductive Control where
  | evaluate (e : Expr)
  | value (d : Datum)
  | signal (s : Signal)

/-- A state of the machine. -/
structure Machine where
  limits : Limits
  scope : List Slot
  cells : Array Datum
  functions : List Function
  /-- Messages, the latest first. -/
  messages : List Event
  /-- How many expressions have been evaluated. -/
  operations : Nat
  /-- How many functions are open. -/
  level : Nat
  control : Control
  frames : List Frame

/-- How many functions may be open. -/
def levelLimit : Nat := 64

/-- The signal of a failure. -/
def Trouble.signal : Trouble → Signal
  | raised value => .raised value
  | fatal => .fatal

namespace Machine

/-! ## Small moves -/

/-- Hand on a value. -/
def yield (m : Machine) (d : Datum) : Machine := { m with control := .value d }

/-- Send a signal. -/
def send (m : Machine) (s : Signal) : Machine := { m with control := .signal s }

/-- Raise a failure with a message. -/
def raise (m : Machine) (message : String) : Machine := m.send (Trouble.ofMessage message).signal

/-- Evaluate an expression, for which a frame waits. -/
def enter (m : Machine) (e : Expr) (f : Frame) : Machine :=
  { m with control := .evaluate e, frames := f :: m.frames }

/-- Evaluate an expression for what already waits. -/
def goOn (m : Machine) (e : Expr) : Machine := { m with control := .evaluate e }

/-- Wait with another frame. -/
def push (m : Machine) (f : Frame) : Machine := { m with frames := f :: m.frames }

/-- Bind a name to a value in a cell of its own. -/
def bind (m : Machine) (constant : Bool) (name : String) (d : Datum) : Machine :=
  { m with scope := ⟨name, constant, m.cells.size⟩ :: m.scope, cells := m.cells.push d }

/-- The variable with a name. -/
def slot? (m : Machine) (name : String) : Option Slot := m.scope.find? (·.name == name)

/-- The value in a cell. -/
def cell (m : Machine) (n : Nat) : Datum := m.cells.getD n .unit

/-- Put a value into a cell. -/
def setCell (m : Machine) (n : Nat) (d : Datum) : Machine :=
  { m with cells := m.cells.setIfInBounds n d }

/-- The texts of a value are not too long. -/
def fits (m : Machine) (d : Datum) : Bool :=
  m.limits.textSize == 0 || d.textSize ≤ m.limits.textSize

/-- Hand on a value that was built, unless its texts are too long. -/
def yieldFitting (m : Machine) (d : Datum) : Machine :=
  if m.fits d then m.yield d else m.send .fatal

/-- Count an operation. -/
def tick (m : Machine) : Machine :=
  let m := { m with operations := m.operations + 1 }
  if m.limits.operations != 0 && m.operations > m.limits.operations then m.send .fatal else m

/-- Evaluate expressions one after the other; none give the unit. -/
def sequence (m : Machine) : List Expr → Machine
  | [] => m.yield .unit
  | [e] => m.goOn e
  | e :: rest => m.enter e (.sequence rest)

/-- Write a message. -/
def say (m : Machine) (level : LogLevel) (text : String) : Machine :=
  ({ m with messages := .scriptLog level text :: m.messages }).yield .unit

/-! ## Functions -/

/-- Bind parameters to arguments. -/
def bindAll (m : Machine) : List String → List Datum → Machine
  | p :: ps, d :: ds => (m.bind false p d).bindAll ps ds
  | _, _ => m

/-- Run the body of a function in a scope. -/
def openCall (m : Machine) (scope : List Slot) (params : List String) (args : List Datum)
    (body : Expr) : Machine :=
  if m.level ≥ levelLimit then m.send .fatal
  else
    let m := { m.push (.call m.scope) with scope, level := m.level + 1 }
    (m.bindAll params args).goOn body

/-- The function of the script with a name that takes so many arguments. -/
def function? (m : Machine) (name : String) (count : Nat) : Option Function :=
  m.functions.find? fun f => f.name == name && f.params.length == count

/-- Apply a function value. -/
def invoke (m : Machine) (f : Datum) (args : List Datum) : Machine :=
  match f with
  | .closure params body scope =>
    if params.length = args.length then m.openCall scope params args body
    else m.raise "function not found"
  | .function name =>
    match m.function? name args.length with
    | some f => m.openCall [] f.params args f.body
    | none =>
      match Builtin.apply name args with
      | .ok outcome => m.yieldFitting outcome.value
      | .error trouble => m.send trouble.signal
  | _ => m.raise "not a function"

/-- Apply a function value to an item of an array; one with two parameters is
also given the position, and one without parameters finds the item as `this`. -/
def invokeItem (m : Machine) (f : Datum) (item : Datum) (position : Nat) : Machine :=
  match f with
  | .closure [_, _] _ _ => m.invoke f [item, .int position]
  | .closure [] body scope => m.openCall scope ["this"] [item] body
  | _ => m.invoke f [item]

/-- Run a script within the script. -/
def runText (m : Machine) (script : String) : Machine :=
  match Program.read? m.limits.textSize script with
  | none => m.send .fatal
  | some program =>
    ({ m with functions := program.functions ++ m.functions }).sequence program.body

/-- Apply a function that is not changed by what it is given: one that writes a
message, that runs a script or that makes function values. -/
def special? (m : Machine) (name : String) (args : List Datum) : Option Machine :=
  match name, args with
  | "print", [] => some (m.say .info "")
  | "print", [d] => some (m.say .info d.shown)
  | "debug", [] => some (m.say .debug "")
  | "debug", [d] => some (m.say .debug d.inspected)
  | "log", [.text s] => some (m.say .info s)
  | "eval", [.text s] => some (m.runText s)
  | "Fn", [.text s] => some (m.yield (.function s))
  | "call", f :: args => some (m.invoke f args)
  | "map", [.array items, f] =>
    some (match items with
      | [] => m.yield (.array [])
      | item :: rest => (m.push (.mapping f [] rest)).invokeItem f item 0)
  | "filter", [.array items, f] =>
    some (match items with
      | [] => m.yield (.array [])
      | item :: rest => (m.push (.filtering f item 0 [] rest)).invokeItem f item 0)
  | _, _ => none

/-! ## Chains -/

/-- Where a part of a value was taken from. -/
inductive Origin where
  | item (items : List Datum) (position : Nat)
  | member (members : List (String × Datum)) (key : String)
  | character (text : List Char) (position : Nat)

/-- The whole with another part. -/
def Origin.whole (part : Datum) : Origin → Datum
  | item items position => .array (items.set position part)
  | member members key => .object (Datum.setMember key part members)
  | character text position =>
    match part with
    | .char c => .text (String.ofList (text.set position c))
    | _ => .text (String.ofList text)

/-- The part of a value at a position. -/
def part? (d position : Datum) : Except String (Datum × Origin) :=
  match d, position with
  | .array items, .int n =>
    match Datum.place? items.length n with
    | some i => .ok (items.getD i .unit, .item items i)
    | none => .error "array index out of bounds"
  | .text s, .int n =>
    let chars := s.toList
    match Datum.place? chars.length n with
    | some i => .ok (.char (chars.getD i ' '), .character chars i)
    | none => .error "string index out of bounds"
  | .object members, .text key =>
    .ok ((Datum.member? key members).getD .unit, .member members key)
  | _, _ => .error "value cannot be indexed"

/-- Members that texts, arrays and ranges have. -/
def readableMembers : List String := ["len", "is_empty", "bytes", "chars", "start", "end"]

/-- The member of a value. -/
def memberOf (d : Datum) (name : String) : Except String (Datum × Option Origin) :=
  match d with
  | .object members => .ok ((Datum.member? name members).getD .unit, some (.member members name))
  | _ =>
    if readableMembers.contains name then
      match Builtin.apply name [d] with
      | .ok outcome => .ok (outcome.value, none)
      | .error _ => .error "property not found"
    else .error "property not found"

/-- A value on the way along a chain: where it was taken from, innermost first,
and the variable it belongs to. -/
structure Focus where
  value : Datum
  origins : List Origin
  root : Option Slot

/-- A value that belongs to no variable. -/
def Focus.of (d : Datum) : Focus := ⟨d, [], none⟩

/-- The value of the variable with another value in focus. -/
def Focus.rebuilt (f : Focus) (d : Datum) : Datum :=
  f.origins.foldl (fun part origin => origin.whole part) d

/-- Change the value in focus. -/
def writeBack (m : Machine) (f : Focus) (d : Datum) : Except Trouble Machine :=
  match f.root with
  | none => if m.fits d then .ok m else .error .fatal
  | some slot =>
    if slot.constant then .error (.ofMessage "cannot modify constant")
    else
      let whole := f.rebuilt d
      if m.fits whole then .ok (m.setCell slot.cell whole) else .error .fatal

/-- Apply a function that is ready to the value in focus. -/
def applyReady (m : Machine) (f : Focus) (name : String) (args : List Datum) :
    Except Trouble (Datum × Machine) := do
  let outcome ← Builtin.apply name (f.value :: args)
  match outcome.receiver with
  | none => if m.fits outcome.value then return (outcome.value, m) else .error .fatal
  | some changed =>
    let m ← m.writeBack f changed
    return (outcome.value, m)

/-- The function value that is a member of the value in focus. -/
def memberFunction? (d : Datum) (name : String) : Option Datum :=
  match d with
  | .object members =>
    match Datum.member? name members with
    | some (.closure params body scope) => some (.closure params body scope)
    | some (.function f) => some (.function f)
    | _ => none
  | _ => none

/-- Follow the steps of a chain; a step that runs a function of the script
leaves the rest to a frame. -/
def follow (m : Machine) (f : Focus) : List Step → Machine
  | [] => m.yield f.value
  | .index position :: rest =>
    match part? f.value position with
    | .ok (d, origin) => m.follow ⟨d, origin :: f.origins, f.root⟩ rest
    | .error message => m.raise message
  | .member name :: rest =>
    match memberOf f.value name with
    | .ok (d, some origin) => m.follow ⟨d, origin :: f.origins, f.root⟩ rest
    | .ok (d, none) => m.follow (.of d) rest
    | .error message => m.raise message
  | .method name args :: rest =>
    let waiting := if rest.isEmpty then m else m.push (.follow rest)
    match memberFunction? f.value name, m.function? name args.length with
    | some g, _ => waiting.invoke g args
    | none, some g => waiting.openCall [] ("this" :: g.params) (f.value :: args) g.body
    | none, none =>
      match waiting.special? name (f.value :: args) with
      | some m => m
      | none =>
        match m.applyReady f name args with
        | .ok (d, m) => m.follow (.of d) rest
        | .error trouble => m.send trouble.signal

/-- The focus on a variable. -/
def focus? (m : Machine) (name : String) : Option Focus :=
  (m.slot? name).map fun slot => ⟨m.cell slot.cell, [], some slot⟩

/-- The links with their values, in order. -/
def resolve : List Link → List Datum → List Step
  | .index _ :: links, d :: values => .index d :: resolve links values
  | .member name :: links, values => .member name :: resolve links values
  | .method name args :: links, values =>
    .method name (values.take args.length) :: resolve links (values.drop args.length)
  | _, _ => []

/-- The expressions within links, in order. -/
def linkExprs : List Link → List Expr
  | [] => []
  | .index e :: rest => e :: linkExprs rest
  | .member _ :: rest => linkExprs rest
  | .method _ args :: rest => args ++ linkExprs rest

/-! ## Assignments -/

/-- The value that an assignment gives, from the old and the assigned one. -/
def assigned (operator : Option String) (old new : Datum) : Except Trouble Datum :=
  match operator, old, new with
  | none, _, _ => .ok new
  | some "+", .array items, .array more => .ok (.array (items ++ more))
  | some "+", .array items, d => .ok (.array (items ++ [d]))
  | some operator, _, _ => (Builtin.apply operator [old, new]).map Outcome.value

/-- Assign to what the steps lead to from a focus. -/
def assignAt (m : Machine) (operator : Option String) (d : Datum) (f : Focus) :
    List Step → Except Trouble Machine
  | [] => do
    let new ← assigned operator f.value d
    m.writeBack f new
  | .index position :: rest =>
    match part? f.value position with
    | .ok (part, origin) => m.assignAt operator d ⟨part, origin :: f.origins, f.root⟩ rest
    | .error message => .error (.ofMessage message)
  | .member name :: rest =>
    match memberOf f.value name with
    | .ok (part, some origin) => m.assignAt operator d ⟨part, origin :: f.origins, f.root⟩ rest
    | .ok _ => .error (.ofMessage "property cannot be set")
    | .error message => .error (.ofMessage message)
  | .method name args :: rest => do
    let (part, m) ← m.applyReady f name args
    m.assignAt operator d (.of part) rest

/-- Assign a value to a variable, or to what links lead to from one. -/
def assign (m : Machine) (target : Expr) (operator : Option String) (values : List Datum) :
    Machine :=
  let (root, links) := match target with
    | .variable name => (some name, [])
    | .chain (.variable name) links => (some name, links)
    | _ => (none, [])
  match root.bind m.focus?, values with
  | some f, d :: values =>
    match m.assignAt operator d f (resolve links values) with
    | .ok m => m.yield .unit
    | .error trouble => m.send trouble.signal
  | _, _ => m.raise "variable not found"

/-! ## Collected values -/

/-- Apply a function to arguments; the first may be a variable that it
changes. -/
def applyNamed (m : Machine) (name : String) (receiver : Option String) (args : List Datum) :
    Machine :=
  match m.function? name args.length with
  | some f => m.openCall [] f.params args f.body
  | none =>
    match m.special? name args with
    | some m => m
    | none =>
      match args with
      | [] =>
        match Builtin.apply name [] with
        | .ok outcome => m.yieldFitting outcome.value
        | .error trouble => m.send trouble.signal
      | first :: rest =>
        let focus := (receiver.bind m.focus?).getD (.of first)
        match m.applyReady { focus with value := first } name rest with
        | .ok (d, m) => m.yield d
        | .error trouble => m.send trouble.signal

/-- Use collected values. -/
def spend (m : Machine) (values : List Datum) : Use → Machine
  | .array => m.yieldFitting (.array values)
  | .object keys =>
    m.yieldFitting (.object ((keys.zip values).foldl
      (fun members (key, d) => Datum.setMember key d members) []))
  | .template => m.yieldFitting (.text (String.join (values.map Datum.shown)))
  | .call name receiver => m.applyNamed name receiver values
  | .chain none links =>
    match values.getLast? with
    | some root => m.follow (.of root) (resolve links values.dropLast)
    | none => m.raise "no value"
  | .chain (some name) links =>
    match m.focus? name with
    | some f => m.follow f (resolve links values)
    | none => m.raise "variable not found"
  | .assign target operator => m.assign target operator values

/-- Collect the values of expressions for a use. -/
def collect (m : Machine) (use : Use) (done : List Datum) : List Expr → Machine
  | [] => m.spend done.reverse use
  | e :: rest => m.enter e (.collect done rest use)

/-! ## Evaluating -/

/-- The variable that the first argument of a function is. -/
def receiver? : List Expr → Option String
  | .variable name :: _ => some name
  | _ => none

/-- Evaluate the value of a statement for a frame, or hand it the unit. -/
def withValue (m : Machine) (f : Frame) : Option Expr → Machine
  | some e => m.enter e f
  | none => (m.push f).yield .unit

/-- Begin to evaluate an expression. -/
def evaluate (m : Machine) : Expr → Machine
  | .literal l => m.yield (.ofLiteral l)
  | .variable name =>
    match m.slot? name with
    | some slot => m.yield (m.cell slot.cell)
    | none => m.raise "variable not found"
  | .template parts => m.collect .template [] parts
  | .array items => m.collect .array [] items
  | .object keys values => m.collect (.object keys) [] values
  | .call name args => m.collect (.call name (receiver? args)) [] args
  | .chain (.variable name) links => m.collect (.chain (some name) links) [] (linkExprs links)
  | .chain root links => m.collect (.chain none links) [] (linkExprs links ++ [root])
  | .both left right => m.enter left (.both right)
  | .either left right => m.enter left (.either right)
  | .orElse left right => m.enter left (.orElse right)
  | .closure params body => m.yield (.closure params body m.scope)
  | .block body => (m.push (.leave m.scope)).sequence body
  | .declare constant name value => m.withValue (.declare constant name) value
  | .assign (.chain root links) operator value =>
    m.collect (.assign (.chain root links) operator) [] (value :: linkExprs links)
  | .assign target operator value => m.collect (.assign target operator) [] [value]
  | .branch condition yes no => m.enter condition (.branch yes no)
  | .choose subject cases => m.enter subject (.choose cases)
  | .whileLoop expected condition body => m.enter condition (.whileTest expected condition body)
  | .doLoop expected condition body => m.enter body (.doBody expected condition body)
  | .forLoop name counter items body => m.enter items (.forItems name counter body)
  | .attempt body name handler => m.enter body (.attempt m.scope m.level name handler)
  | .throw value => m.withValue .throw value
  | .giveBack value => m.withValue .giveBack value
  | .leaveLoop value => m.withValue .leaveLoop value
  | .nextRound => m.send .nextRound

/-! ## Handing on values -/

/-- What a loop runs over, if the value can be run over. -/
def items? : Datum → Option Items
  | .array items => some (.each items)
  | .text s => some (.each (s.toList.map .char))
  | .range low high inclusive => some (.counted low (Builtin.rangeEnd high inclusive))
  | _ => none

/-- Begin the next round of a loop over items. -/
def nextRound (m : Machine) (scope : List Slot) (items : Items) (round : Nat) (name : String)
    (counter : Option String) (body : Expr) : Machine :=
  match items.next? with
  | none => ({ m with scope }).yield .unit
  | some (d, rest) =>
    let m := { m.push (.forBody scope rest (round + 1) name counter body) with scope }
    let m := match counter with
      | some counter => m.bind false counter (.int round)
      | none => m
    ((m.bind false name d).goOn body).tick

/-- The pattern accepts a value. -/
def accepts (d : Datum) : CasePattern → Bool
  | .exactly l =>
    match d, l with
    | .char _, .text _ => false
    | .text _, .char _ => false
    | d, l => d.same (.ofLiteral l)
  | .between low high inclusive =>
    match d with
    | .int n => low ≤ n && n < Builtin.rangeEnd high inclusive
    | _ => false

/-- Take the first case that accepts the value. -/
def choose (m : Machine) (d : Datum) : List Case → Machine
  | [] => m.yield .unit
  | .mk patterns condition body :: rest =>
    if patterns.all fun patterns => patterns.any (accepts d) then
      match condition with
      | none => m.goOn body
      | some condition => m.enter condition (.caseTest d body rest)
    else m.choose d rest

/-- Hand a truth value on. -/
def withTruth (m : Machine) (d : Datum) (next : Bool → Machine) : Machine :=
  match d with
  | .bool b => next b
  | _ => m.raise "a truth value was expected"

/-- Hand a value to the frame that waits for it. -/
def resume (m : Machine) (d : Datum) : Frame → Machine
  | .sequence rest => m.sequence rest
  | .leave scope => ({ m with scope }).yield d
  | .declare constant name => (m.bind constant name d).yield .unit
  | .collect done rest use => m.collect use (d :: done) rest
  | .branch yes no =>
    m.withTruth d fun b =>
      if b then m.goOn yes
      else match no with
        | some no => m.goOn no
        | none => m.yield .unit
  | .both right => m.withTruth d fun b => if b then m.enter right .truth else m.yield d
  | .either right => m.withTruth d fun b => if b then m.yield d else m.enter right .truth
  | .truth => m.withTruth d fun _ => m.yield d
  | .orElse right =>
    match d with
    | .unit => m.goOn right
    | _ => m.yield d
  | .whileTest expected condition body =>
    m.withTruth d fun b =>
      if b = expected then (m.enter body (.whileBody expected condition body)).tick
      else m.yield .unit
  | .whileBody expected condition body => m.enter condition (.whileTest expected condition body)
  | .doBody expected condition body => (m.enter condition (.doTest expected condition body)).tick
  | .doTest expected condition body =>
    m.withTruth d fun b =>
      if b = expected then m.enter body (.doBody expected condition body) else m.yield .unit
  | .forItems name counter body =>
    match items? d with
    | some items => m.nextRound m.scope items 0 name counter body
    | none => m.raise "value cannot be run over"
  | .forBody scope items round name counter body => m.nextRound scope items round name counter body
  | .choose cases => m.choose d cases
  | .caseTest subject body rest =>
    m.withTruth d fun b => if b then m.goOn body else m.choose subject rest
  | .attempt _ _ _ _ => m.yield d
  | .discard => m.yield .unit
  | .throw => m.send (.raised d)
  | .giveBack => m.send (.giveBack d)
  | .leaveLoop => m.send (.leaveLoop d)
  | .call scope => ({ m with scope, level := m.level - 1 }).yield d
  | .follow steps => m.follow (.of d) steps
  | .mapping f done rest =>
    match rest with
    | [] => m.yieldFitting (.array (d :: done).reverse)
    | item :: rest => (m.push (.mapping f (d :: done) rest)).invokeItem f item (done.length + 1)
  | .filtering f item position kept rest =>
    let kept := match d with
      | .bool true => item :: kept
      | _ => kept
    match rest with
    | [] => m.yield (.array kept.reverse)
    | item :: rest =>
      (m.push (.filtering f item (position + 1) kept rest)).invokeItem f item (position + 1)

/-! ## Signals -/

/-- Send a signal through the innermost frame. -/
def unwind (m : Machine) (s : Signal) (f : Frame) : Machine :=
  match f, s with
  | .leave scope, s => ({ m with scope }).send s
  | .whileBody _ _ _, .leaveLoop d => m.yield d
  | .whileBody expected condition body, .nextRound =>
    m.enter condition (.whileTest expected condition body)
  | .doBody _ _ _, .leaveLoop d => m.yield d
  | .doBody expected condition body, .nextRound =>
    m.enter condition (.doTest expected condition body)
  | .forBody scope _ _ _ _ _, .leaveLoop d => ({ m with scope }).yield d
  | .forBody scope items round name counter body, .nextRound =>
    m.nextRound scope items round name counter body
  | .call scope, .giveBack d => ({ m with scope, level := m.level - 1 }).yield d
  | .call scope, s => ({ m with scope, level := m.level - 1 }).send s
  | .attempt scope level name handler, .raised d =>
    let m := { m with scope, level, frames := .leave scope :: .discard :: m.frames }
    let m := match name with
      | some name => m.bind false name d
      | none => m
    m.goOn handler
  | _, s => m.send s

/-! ## Runs -/

/-- The end of a run. -/
inductive Ending where
  | value (d : Datum)
  | failed

/-- One step: the next state, or the end. -/
def step (m : Machine) : Machine ⊕ Ending :=
  match m.control, m.frames with
  | .evaluate e, _ =>
    let m := m.tick
    match m.control with
    | .signal _ => .inl m
    | _ => .inl (m.evaluate e)
  | .value d, [] => .inr (.value d)
  | .value d, f :: frames => .inl ({ m with frames }.resume d f)
  | .signal (.giveBack d), [] => .inr (.value d)
  | .signal _, [] => .inr .failed
  | .signal s, f :: frames => .inl ({ m with frames }.unwind s f)

/-- Run until the end, at most `fuel` steps; the end and the messages. -/
def run : Nat → Machine → Ending × List Event
  | 0, m => (.failed, m.messages.reverse)
  | fuel + 1, m =>
    match m.step with
    | .inl m => run fuel m
    | .inr ending => (ending, m.messages.reverse)

end Machine

end Folio.Script
