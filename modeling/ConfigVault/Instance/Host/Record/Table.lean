import ConfigVault.Instance.Host.Record.Value
import Std.Data.HashMap

/-!
# Tables of programs for records

A table holds values under keys.  A loop over the keys meets them list by list: each key is in the list
that its hash leads to, and a key that is asked for moves to the front of its list.  Keys that were asked
for as whole numbers are put into those lists when a key is first asked for as a text, or when the order
is first needed.
-/

namespace ConfigVault.Host.Record

inductive Key where
  | text (text : Raw)
  | number (n : Int)

def Key.toText : Key → Raw
  | text t => t
  | number n => toString n

structure Table where
  values : Std.HashMap Raw Value
  /-- The keys as texts by their hashes, where `ordered` is set. -/
  texts : Array (List Raw)
  numbers : Array (List Int)
  ordered : Bool

namespace Table

def startSize : Nat := 64

/-- The number of keys in each list, on average, above which the lists are doubled. -/
def maxAverage : Nat := 12

def empty : Table := ⟨∅, Array.replicate startSize [], Array.replicate startSize [], false⟩

def hash (key : Raw) : Nat :=
  key.toList.foldl (fun h c => ((h ^^^ c.toNat) * 16777619) % 4294967296) 2166136261

def textList (t : Table) (key : Raw) : Nat := hash key % t.texts.size

def numberList (t : Table) (n : Int) : Nat := (n % t.numbers.size).toNat

def front {α : Type} [BEq α] (a : α) (list : List α) : List α :=
  match list with
  | [] => [a]
  | b :: _ => if b == a then list else a :: list.filter fun c => !(c == a)

/-- Puts keys into twice as many lists, each in its order. -/
def doubled {α : Type} (place : α → Nat → Nat) (lists : Array (List α)) : Array (List α) :=
  let size := 2 * lists.size
  let pick (i : Nat) : List α := (lists.getD (i % lists.size) []).filter fun a => place a size = i
  ((List.range size).map pick).toArray

def makeRoom (t : Table) : Table :=
  if t.values.size < t.texts.size * maxAverage then t
  else
    { t with
      texts := doubled (fun k size => hash k % size) t.texts
      numbers := doubled (fun n size => (n % size).toNat) t.numbers }

/-- Puts the keys that were asked for as numbers into the lists of texts. -/
def order (t : Table) : Table :=
  if t.ordered then t
  else
    let numbers := t.numbers.toList.flatten
    let texts := numbers.foldl (fun (texts : Array (List Raw)) n =>
      let key := toString n
      texts.modify (hash key % texts.size) (key :: ·)) t.texts
    { t with texts, ordered := true }

/-- Moves a key that is there to the front of its lists, or puts it there. -/
def touch (t : Table) (key : Key) : Table :=
  match key with
  | .text k =>
    let t := t.order
    { t with texts := t.texts.modify (t.textList k) (front k) }
  | .number n =>
    let i := t.numberList n
    if ((t.numbers.getD i []).contains n) || !t.ordered then
      { t with numbers := t.numbers.modify i (front n) }
    else
      let k := toString n
      { t with
        texts := t.texts.modify (t.textList k) (front k)
        numbers := t.numbers.modify i (n :: ·) }

def asks (t : Table) (key : Key) : Bool × Table :=
  if t.values.contains key.toText then (true, t.touch key) else (false, t)

def get (t : Table) (key : Key) : Value × Table :=
  let k := key.toText
  match t.values[k]? with
  | some v => (v, t.touch key)
  | none =>
    let t := t.makeRoom.touch key
    (.none, { t with values := t.values.insert k .none })

def set (t : Table) (key : Key) (value : Value) : Table :=
  let (_, t) := t.get key
  { t with values := t.values.insert key.toText value }

def erase (t : Table) (key : Key) : Table :=
  let k := key.toText
  if !t.values.contains k then t
  else
    let t := t.touch key
    let number? := (Raw.int? k.toList).filter fun n => toString n = k
    let numbers :=
      match number? with
      | some n => t.numbers.modify (t.numberList n) (·.filter (· ≠ n))
      | none => t.numbers
    let t :=
      { t with
        values := t.values.erase k, numbers, texts := t.texts.modify (t.textList k) (·.filter (· ≠ k)) }
    if t.values.isEmpty then empty else t

def keys (t : Table) : List Raw × Table :=
  let t := t.order
  (t.texts.toList.flatten, t)

def ofList (values : List Value) : Table :=
  (values.foldl (fun (acc : Table × Int) v => (acc.1.set (.number acc.2) v, acc.2 + 1)) (empty, 1)).1

end Table

end ConfigVault.Host.Record
