import Sift.Dataset
import Sift.Json.Members

/-!
# Pages

A page is a numbered part of the rows of a query.  Pages are numbered from one on, and a page
number or size of zero counts as one.  The offset of a page that lies beyond 64 bits is the
greatest offset there is.

`DatasetQuery.page` applies a compiled query and serves one page of it, with the number of all
rows.
-/

namespace Sift

/-! ## Requests -/

/-- A request for one page. -/
structure Paging where
  page : UInt64
  perPage : UInt64
  deriving DecidableEq, Repr

namespace Paging

/-- The first page, of twenty rows. -/
def standard : Paging :=
  ⟨1, 20⟩

/-- The request with ones in place of zeros. -/
def ofNumbers (page perPage : UInt64) : Paging :=
  ⟨max page 1, max perPage 1⟩

/-- The greatest number of rows on the page. -/
def limit (r : Paging) : UInt64 :=
  max r.perPage 1

/-- The number of rows on the pages before this one. -/
def offset (r : Paging) : UInt64 :=
  UInt64.ofNat (min (((max r.page 1).toNat - 1) * r.limit.toNat) (UInt64.size - 1))

/-- A request from a JSON structure. -/
def ofJson? (j : Json) : Option Paging := do
  match ← j.members? ["page", "per_page"] with
  | [page, perPage] => some ⟨← (← page).word?, ← (← perPage).word?⟩
  | _ => none

/-- A request as a JSON object. -/
def toJson (r : Paging) : Json :=
  .object [("page", .ofNat r.page.toNat), ("per_page", .ofNat r.perPage.toNat)]

end Paging

/-! ## Pages -/

/-- Which page was served, and the number of rows on all pages. -/
structure PageSummary where
  total : UInt64
  page : UInt64
  perPage : UInt64
  deriving DecidableEq, Repr

namespace PageSummary

/-- The number of pages that hold all rows. -/
def pageCount (info : PageSummary) : Nat :=
  let size := (max info.perPage 1).toNat
  (info.total.toNat + size - 1) / size

/-- The numbers of a page from a JSON structure. -/
def ofJson? (j : Json) : Option PageSummary := do
  match ← j.members? ["total", "page", "per_page"] with
  | [total, page, perPage] =>
    some ⟨← (← total).word?, ← (← page).word?, ← (← perPage).word?⟩
  | _ => none

/-- The numbers of a page as a JSON object. -/
def toJson (info : PageSummary) : Json :=
  .object [("total", .ofNat info.total.toNat), ("page", .ofNat info.page.toNat),
    ("per_page", .ofNat info.perPage.toNat)]

end PageSummary

/-- A page with its items. -/
structure Page (α : Type) where
  info : PageSummary
  items : List α

namespace Page

/-- A page from a JSON structure, with a reader for its items. -/
def ofJson? {α : Type} (item? : Json → Option α) (j : Json) : Option (Page α) := do
  match ← j.members? ["_pagination", "items"] with
  | [info, items] => some ⟨← PageSummary.ofJson? (← info), ← (← (← items).items?).mapM item?⟩
  | _ => none

/-- A page as a JSON object, with a writer for its items. -/
def toJson {α : Type} (item : α → Json) (p : Page α) : Json :=
  .object [("_pagination", p.info.toJson), ("items", .array (p.items.map item))]

end Page

/-! ## Serving pages -/

/-- Adds a compiled query to a query and serves one page of it; returns the page and the query that
is left, which keeps everything that was added. -/
def DatasetQuery.page (q : DatasetQuery) (query : Query) (request : Paging) :
    Page Record × DatasetQuery :=
  let restricted := query.addTo q
  let paged := Backend.limit (Backend.skip restricted request.offset) request.limit
  let info := ⟨UInt64.ofNat restricted.count, max request.page 1, request.limit⟩
  (⟨info, paged.rows⟩, paged)

end Sift
