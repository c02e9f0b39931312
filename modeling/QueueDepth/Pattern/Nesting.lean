import QueueDepth.Pattern.Fault
import QueueDepth.Pattern.Tree

/-!
# Nesting

Groups, repetitions, sequences, alternatives and sets may stand within one another, but not too deep.

* `Tree.checkNesting`: refuses a pattern with a part that lies too deep.
-/

namespace QueueDepth.Pattern

open Text (Place)

/-- Look into a part if there is room for it. -/
def within (place : Place) (look : Nat → Option Place) : Nat → Option Place
  | 0 => some place
  | room + 1 => look room

mutual

/-- The first item of a set for which there is no room. -/
def SetTree.tooDeep? : SetTree → Nat → Option Place
  | bracketed place _ inner, room => within place inner.tooDeep? room
  | union place items, room => within place (SetTree.anyTooDeep? items) room
  | joined operator first second, room =>
    within (joined operator first second).place
      (fun room => (first.tooDeep? room).or (second.tooDeep? room)) room
  | nothing _, _ | letter _, _ | range _ _, _ | named _ _ _, _ | shorthand _ _ _, _
  | property _ _, _ => none

/-- The first of several items of a set for which there is no room. -/
def SetTree.anyTooDeep? : List SetTree → Nat → Option Place
  | [], _ => none
  | item :: items, room =>
    match item.tooDeep? room with
    | some place => some place
    | none => SetTree.anyTooDeep? items room

end

mutual

/-- The first part of a pattern for which there is no room. -/
def Tree.tooDeep? : Tree → Nat → Option Place
  | set written, room => written.tooDeep? room
  | group place _ inner, room => within place inner.tooDeep? room
  | sequence place parts, room => within place (Tree.anyTooDeep? parts) room
  | choice place branches, room => within place (Tree.anyTooDeep? branches) room
  | repeated place _ _ _ part, room => within place part.tooDeep? room
  | empty, _ | atom _, _ | switches _, _ => none

/-- The first of several parts of a pattern for which there is no room. -/
def Tree.anyTooDeep? : List Tree → Nat → Option Place
  | [], _ => none
  | part :: parts, room =>
    match part.tooDeep? room with
    | some place => some place
    | none => Tree.anyTooDeep? parts room

end

/-- Refuse a pattern with a part that lies too deep. -/
def Tree.checkNesting (tree : Tree) : Except Complaint Tree :=
  match tree.tooDeep? nestingLimit with
  | some place => .error { fault := .nestedTooDeep, place }
  | none => .ok tree

end QueueDepth.Pattern
