import VideoDelivery.Text.Blank

/-!
# Names and their spellings

A property may be written in several spellings: `aspectRatio`, `aspect_ratio` and `ASPECT_RATIO`
are one name. What spellings of one name share is their *fold*: the text without underscores and
with `A` to `Z` in lower case. Hyphens and everything else are kept, so `data-testid` never folds
to a known name.

* `lookup_congr` — a table lookup depends on the fold alone.
* `fold_eq_of_lookup` — what a lookup finds is a spelling of the name that was looked up.
-/

namespace VideoDelivery.Name

/-- What the spellings of one name share. -/
def fold (name : String) : String :=
  String.ofList ((name.toList.filter (· ≠ '_')).map Char.toLower)

/-- The first name of the table that `name` is a spelling of. -/
def lookup (table : List String) (name : String) : Option String :=
  table.find? fun canonical => fold canonical = fold name

theorem lookup_congr {table : List String} {a b : String} (h : fold a = fold b) :
    lookup table a = lookup table b := by
  simp [lookup, h]

theorem fold_eq_of_lookup {table : List String} {name canonical : String}
    (h : lookup table name = some canonical) : fold canonical = fold name := by
  simpa using List.find?_some h

theorem mem_of_lookup {table : List String} {name canonical : String}
    (h : lookup table name = some canonical) : canonical ∈ table :=
  List.mem_of_find?_eq_some h

end VideoDelivery.Name
