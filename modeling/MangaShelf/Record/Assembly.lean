import MangaShelf.Chapter.List
import MangaShelf.Record.Cleanup

/-!
# Assembling records

A record is put together from the requested fields, each read by its own rule. A field without a
rule or without a value is left out; genres and chapters are lists, which may be empty.
-/

namespace MangaShelf.Record

open Config (Field FieldRule)
open Extraction (Subject)

/-- The rules for the fields of a record. -/
abbrev Rules := Field → Option FieldRule

/-- How a plain field is read when its rule does not say it: links by their target, images by their
source, all else by its text. -/
def plainSource? : RequestField → Option (Field × RecordKey × FieldRule.Extraction)
  | .id => some (.mangaId, .id, { attr := some (some "href") })
  | .name => some (.name, .name, { text := some true })
  | .description => some (.description, .description, { text := some true })
  | .image => some (.image, .image, { attr := some (some "src") })
  | _ => none

/-- The texts among some values. -/
def texts : Json → Json
  | .array vs => .array (vs.filter fun v => v.asString?.isSome)
  | v => v

/-- Set the value of one requested field. -/
def addField (s : Subject) (rules : Rules) (base : String) (r : Record) (field : RequestField) :
    Except Failure Record :=
  match plainSource? field, field with
  | some (source, key, extraction), _ =>
    match rules source with
    | none => .ok r
    | some rule => do
      let v ← Extraction.extract s (rule.prepared extraction { multiple := some false })
      return if v.isNull then r else r.set key v
  | none, .genres =>
    match rules .genres with
    | none => .ok r
    | some rule => do
      let v ← Extraction.extract s
        (rule.prepared { text := some true } { multiple := some true })
      return r.set .genres (texts v)
  | none, .chapters =>
    match rules .chapters with
    | none => .ok r
    | some rule => do
      let chapters ← Chapter.collect s (some rule) base
      return (r.set .chapters (.array (chapters.map Chapter.toJson))).set .chapterCount
        (.int chapters.length)
  | none, _ => .ok r

/-- The record of a subject on the page at the address `base`. -/
def assemble (s : Subject) (rules : Rules) (fields : List RequestField) (base : String) :
    Except Failure Record := do
  clean base (← fields.foldlM (addField s rules base) empty)

end MangaShelf.Record
