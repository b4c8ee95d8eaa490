import DatasetSearch.Binary64.Basic
import DatasetSearch.Checks
import DatasetSearch.Request.Validation
import DatasetSearch.Text.Space

/-!
Settings of the service: where it listens, which database holds the catalog, and which page sizes
it allows. Defaults cover everything but the connection string; the checks run in a fixed order and
the first that fails names the fault. They let pass exactly the acceptable settings, which have one
condition for each field of `IsAcceptable` (`validate_eq_ok_iff`).
-/

set_option autoImplicit false
set_option relaxedAutoImplicit false

namespace DatasetSearch

namespace Settings

structure Server where
  port : UInt16 := 8080
  bindAddress : String := "0.0.0.0"
  deriving DecidableEq, Repr, Inhabited

structure Database where
  connectionString : String := ""
  databaseName : String := "catalog"
  collection : String := "cznet"
  searchIndex : String := "fuzzy_search"
  /-- Seconds to wait for a connection or for a usable server. -/
  requestTimeout : Binary64 := .ofNat 10
  maxPoolSize : UInt32 := 20
  deriving DecidableEq, Repr

structure Search where
  defaultPageSize : UInt32 := Request.defaultPageSize
  maxPageSize : UInt32 := Request.defaultMaxPageSize
  deriving DecidableEq, Repr, Inhabited

def Search.limits (search : Search) : Limits := ⟨search.maxPageSize⟩

end Settings

structure Settings where
  server : Settings.Server := {}
  database : Settings.Database := {}
  search : Settings.Search := {}
  deriving DecidableEq, Repr

namespace Settings

def environmentStart : String := "CATALOG_SEARCH_"

inductive Fault where
  | noConnectionString
  | requestTimeout
  | maxPoolSize
  | maxPageSize
  | defaultPageSize (greatest : UInt32)
  deriving DecidableEq, Repr

def Fault.message : Fault → String
  | noConnectionString =>
    "database.connection_string is not configured (set " ++ environmentStart ++
      "CONNECTION_STRING)"
  | requestTimeout => "database.request_timeout must be a positive number of seconds"
  | maxPoolSize => "database.max_pool_size must be positive"
  | maxPageSize => "search.max_page_size must be positive"
  | defaultPageSize greatest =>
    "search.default_page_size must be between 1 and " ++ toString greatest.toNat

def validate (settings : Settings) : Except Fault Unit := do
  let database := settings.database
  let search := settings.search
  ensure (!Text.isBlank database.connectionString) .noConnectionString
  ensure (database.requestTimeout.isFinite && database.requestTimeout.isPositive) .requestTimeout
  ensure (database.maxPoolSize != 0) .maxPoolSize
  ensure (search.maxPageSize != 0) .maxPageSize
  ensure (search.defaultPageSize != 0 && search.defaultPageSize ≤ search.maxPageSize)
    (.defaultPageSize search.maxPageSize)

/-! ### accepted settings -/

structure IsAcceptable (settings : Settings) : Prop where
  connectionString : Text.isBlank settings.database.connectionString = false
  isFinite_requestTimeout : settings.database.requestTimeout.isFinite = true
  isPositive_requestTimeout : settings.database.requestTimeout.isPositive = true
  maxPoolSize : settings.database.maxPoolSize ≠ 0
  maxPageSize : settings.search.maxPageSize ≠ 0
  defaultPageSize : settings.search.defaultPageSize ≠ 0
  defaultPageSize_le : settings.search.defaultPageSize ≤ settings.search.maxPageSize

theorem validate_eq_ok_iff (settings : Settings) :
    settings.validate = .ok () ↔ settings.IsAcceptable := by
  simp only [validate, check_bind_eq_ok_iff, ensure_eq_ok_iff, Bool.and_eq_true, Bool.not_eq_true',
    bne_iff_ne, decide_eq_true_eq]
  constructor
  · rintro ⟨hstring, ⟨hfinite, hpositive⟩, hpool, hmax, hdefault, hle⟩
    exact ⟨hstring, hfinite, hpositive, hpool, hmax, hdefault, hle⟩
  · intro h
    exact ⟨h.connectionString, ⟨h.isFinite_requestTimeout, h.isPositive_requestTimeout⟩,
      h.maxPoolSize, h.maxPageSize, h.defaultPageSize, h.defaultPageSize_le⟩

end Settings

end DatasetSearch
