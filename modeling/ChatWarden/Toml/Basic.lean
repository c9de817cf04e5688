/-!
# TOML documents

A document is a tree of tables. Besides its items a table remembers how it came about: one that is
implicit was only named on the way to another, and one that is dotted was named by a dotted key.
Both decide which later lines may still add to it.
-/

namespace ChatWarden.Toml

inductive Error where
  | invalid
  | redefined (key : String)
  | tooDeep
deriving DecidableEq

namespace Error

def message : Error → String
  | .invalid => "the text is no TOML document"
  | .redefined key => "`" ++ key ++ "` is defined in a way that an earlier line rules out"
  | .tooDeep => "values or keys are nested too deeply"

end Error

inductive Item where
  | string (content : String)
  | int (number : Int64)
  | float
  | flag (holds : Bool)
  | moment
  | array (items : List Item)
  /-- A table written as a value. Nothing can be added to it. -/
  | inlineTable (items : List (String × Item))
  | table (isImplicit isDotted : Bool) (items : List (String × Item))
  /-- A list of tables that were each opened by a header of its own. -/
  | tables (all : List (List (String × Item)))

instance : Inhabited Item := ⟨.flag false⟩

/-- A table while lines are added to it. -/
structure Table where
  isImplicit : Bool := false
  isDotted : Bool := false
  items : List (String × Item) := []

namespace Table

def toItem (t : Table) : Item :=
  .table t.isImplicit t.isDotted t.items

def get? (t : Table) (key : String) : Option Item :=
  t.items.lookup key

def remove (t : Table) (key : String) : Table :=
  { t with items := t.items.filter (·.1 != key) }

/-- Puts an item under a key in place of the one that is there. -/
def replace (t : Table) (key : String) (item : Item) : Table :=
  { t with items := t.items.map fun e => if e.1 = key then (key, item) else e }

def append (t : Table) (key : String) (item : Item) : Table :=
  { t with items := t.items ++ [(key, item)] }

/-- Changes the table at the end of a path. Tables that are not there are made. A dotted path does
not lead through a table that has a header of its own. -/
def updateAt (dotted : Bool) (change : Table → Except Error Table) :
    List String → Table → Except Error Table
  | [], t => change t
  | key :: path, t =>
    match t.get? key with
    | none => do
      let below ← updateAt dotted change path { isImplicit := true, isDotted := dotted }
      return t.append key below.toItem
    | some (.table isImplicit isDotted items) =>
      if dotted && !isImplicit then .error (.redefined key)
      else do
        let below ← updateAt dotted change path { isImplicit, isDotted, items }
        return t.replace key below.toItem
    | some (.tables all) =>
      match all.getLast? with
      | none => .error (.redefined key)
      | some items => do
        let below ← updateAt dotted change path { items }
        return t.replace key (.tables (all.dropLast ++ [below.items]))
    | some _ => .error (.redefined key)

def at? : List String → Table → Option Table
  | [], t => some t
  | key :: path, t =>
    match t.get? key with
    | some (.table isImplicit isDotted items) => at? path { isImplicit, isDotted, items }
    | some (.tables all) => all.getLast?.bind fun items => at? path { items }
    | _ => none

/-- Adds a value under a dotted key, of which the last part is given apart. -/
def addValue (path : List String) (key : String) (item : Item) (t : Table) : Except Error Table :=
  updateAt (!path.isEmpty)
    (fun below =>
      if below.isDotted == path.isEmpty then .error (.redefined key)
      else
        match below.get? key with
        | some _ => .error (.redefined key)
        | none => .ok (below.append key item))
    path t

end Table

/-- A document under way: the tables that are complete and the one that lines are added to. -/
structure Draft where
  root : Table := {}
  current : Table := {}
  /-- The path of the current table; it is empty before the first header. -/
  path : List String := []
  isElement : Bool := false

namespace Draft

def close (d : Draft) : Except Error Table :=
  match d.path.getLast? with
  | none => .ok d.current
  | some key =>
    Table.updateAt false
      (fun parent =>
        if d.isElement then
          match parent.get? key with
          | none => .ok (parent.append key (.tables [d.current.items]))
          | some (.tables all) => .ok (parent.replace key (.tables (all ++ [d.current.items])))
          | some _ => .error (.redefined key)
        else
          match parent.get? key with
          | none => .ok (parent.append key d.current.toItem)
          | some _ => .error (.redefined key))
      d.path.dropLast d.root

/-- Begins the table of a header. One that was only named so far goes on; any other is new. -/
def openTable (d : Draft) (path : List String) (key : String) : Except Error Draft := do
  let root ← d.close
  let root ← Table.updateAt false .ok path root
  let current ←
    match (root.at? path).bind (·.get? key) with
    | none => .ok {}
    | some (.table true false items) => .ok { items }
    | some _ => .error (.redefined key)
  let root ← Table.updateAt false (fun t => .ok (t.remove key)) path root
  return { root, current, path := path ++ [key] }

def openElement (d : Draft) (path : List String) (key : String) : Except Error Draft := do
  let root ← d.close
  let root ← Table.updateAt false
    (fun parent =>
      match parent.get? key with
      | none => .ok parent
      | some (.tables _) => .ok parent
      | some _ => .error (.redefined key))
    path root
  return { root, path := path ++ [key], isElement := true }

end Draft

end ChatWarden.Toml
