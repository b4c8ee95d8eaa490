import DatasetSearch.Bson.Basic
import DatasetSearch.Fields
import DatasetSearch.Plan.Basic

/-!
The aggregation pipeline of a plan: one document for each stage. Groups without clauses and open
sides of ranges leave no key behind, and a count to skip is cut to what a signed word can hold.
-/

set_option autoImplicit false
set_option relaxedAutoImplicit false

namespace DatasetSearch.Pipeline

abbrev Document := Fields Bson

def optional (key : String) (value : Option Bson) : Document :=
  (value.map (key, ·)).toList

def renderDate (t : Instant) : Bson := .date t.millis

def renderClause : Clause → Bson
  | .text path query =>
    .document [("text", .document [("path", .string path), ("query", .string query)])]
  | .range path gte lt =>
    .document [("range", .document (("path", .string path) ::
      optional "gte" (gte.map renderDate) ++ optional "lt" (lt.map renderDate)))]
  | .fuzzy path query maxEdits =>
    .document [("autocomplete", .document [
      ("query", .string query),
      ("path", .string path),
      ("fuzzy", .document [("maxEdits", .int32 maxEdits.toNat)])])]

def renderGroup (key : String) (clauses : List Clause) : Document :=
  if clauses.isEmpty then [] else [(key, .array (clauses.map renderClause))]

def renderSearch (index : String) (stage : SearchStage) : Document :=
  [("$search", .document [
    ("index", .string index),
    ("compound", .document (renderGroup "filter" stage.filter ++
      renderGroup "should" stage.should ++ renderGroup "must" stage.must)),
    ("highlight", .document [("path", .array (stage.highlightPaths.map .string))])])]

def greatestSkip : Nat := (1 <<< 63) - 1

def renderStage (index : String) : Stage → Document
  | .search stage => renderSearch index stage
  | .sort field ascending =>
    [("$sort", .document [(field, .int32 (if ascending then 1 else -1))])]
  | .skip count => [("$skip", .int64 (min count.toNat greatestSkip : Nat))]
  | .limit count => [("$limit", .int64 count.toNat)]
  | .annotate scoreField highlightField =>
    [("$set", .document (Fields.put highlightField
      (.document [("$meta", .string "searchHighlights")])
      [(scoreField, .document [("$meta", .string "searchScore")])]))]

def render (plan : Plan) (index : String) : List Document :=
  plan.stages.map (renderStage index)

end DatasetSearch.Pipeline
