import HttpExchange.Store.Basic

/-!
# What actions ask of a store

Actions see a store only through the questions and the writes below, so they run
on whatever answers them.
-/

namespace HttpExchange

/-- What answers the questions and takes the writes of actions. Every write is told what the wall
clock says. -/
class ObjectStore (S : Type) where
  /-- What is known of an entity. -/
  schema? (entity : Text) : S → Option Schema
  /-- The values of some fields of some objects in a language. -/
  read (entity : Text) (ids : List Nat) (fields : List Text) (lang : Text) :
    S → Except StoreError (List Members)
  /-- Creates an object and gives its number. -/
  create (now : Int) (entity : Text) (values : Members) (lang : Text) :
    S → Except StoreError Nat × S
  /-- Writes values to some objects. -/
  update (now : Int) (entity : Text) (ids : List Nat) (values : Members) (lang : Text) :
    S → Except StoreError Unit × S
  /-- Copies some objects and gives the numbers of the copies. -/
  cloneObjects (now : Int) (entity : Text) (ids : List Nat) : S → Except StoreError (List Nat) × S

instance : ObjectStore Store where
  schema? := Store.schema?
  read := Store.read
  create := Store.create
  update := Store.update
  cloneObjects := Store.cloneObjects

end HttpExchange
