/-!
The catalog: paths of the fields that searches look into, and the names under which a search adds
its own annotations to a record.
-/

set_option autoImplicit false
set_option relaxedAutoImplicit false

namespace DatasetSearch.Catalog

def version : String := "0.1.0"

def name : String := "name"

def description : String := "description"

def keywords : String := "keywords"

def creatorName : String := "creator.@list.name"

def providerName : String := "provider.name"

def recordType : String := "@type"

def datePublished : String := "datePublished"

def coverageStart : String := "temporalCoverage.start"

def coverageEnd : String := "temporalCoverage.end"

def searchable : List String := [name, description, keywords]

def highlighted : List String := [name, description, keywords, creatorName]

def score : String := "score"

def highlights : String := "highlights"

end DatasetSearch.Catalog
