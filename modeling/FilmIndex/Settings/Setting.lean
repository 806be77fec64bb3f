import FilmIndex.Number.Reading

/-!
The settings by name. In the environment a setting's name has a prefix, and
capital and small letters are not told apart.
-/

namespace FilmIndex

inductive Setting where
  | milvusHost
  | milvusPort
  | milvusToken
  | connectionAlias
  | collectionName
  | csvPath
  | dimension
  | segmentRowLimit
  | indexType
  | metricType
  | nlist
  | nprobe
  | topK
  | releaseYears
  | querySeed
  | logLevel
  deriving DecidableEq

namespace Setting

def all : List Setting :=
  [milvusHost, milvusPort, milvusToken, connectionAlias, collectionName, csvPath, dimension,
    segmentRowLimit, indexType, metricType, nlist, nprobe, topK, releaseYears, querySeed, logLevel]

def name : Setting → String
  | milvusHost => "milvus_host"
  | milvusPort => "milvus_port"
  | milvusToken => "milvus_token"
  | connectionAlias => "connection_alias"
  | collectionName => "collection_name"
  | csvPath => "csv_path"
  | dimension => "dimension"
  | segmentRowLimit => "segment_row_limit"
  | indexType => "index_type"
  | metricType => "metric_type"
  | nlist => "nlist"
  | nprobe => "nprobe"
  | topK => "top_k"
  | releaseYears => "release_years"
  | querySeed => "query_seed"
  | logLevel => "log_level"

/-- A name in small letters, so far as it can then be a setting's name: the
Kelvin sign is the one letter beyond ASCII whose small form is in ASCII. -/
def lowerName (s : String) : List Char :=
  s.toList.map fun c => if c.toNat = 0x212A then 'k' else Number.lowerAscii c

def environmentName (s : Setting) : String := "films_demo_" ++ s.name

theorem mem_all (s : Setting) : s ∈ all := by cases s <;> decide

end Setting

inductive LogLevel where
  | critical
  | fatal
  | error
  | warn
  | warning
  | info
  | debug
  | notset
  deriving DecidableEq

namespace LogLevel

def all : List LogLevel := [critical, fatal, error, warn, warning, info, debug, notset]

def name : LogLevel → String
  | critical => "CRITICAL"
  | fatal => "FATAL"
  | error => "ERROR"
  | warn => "WARN"
  | warning => "WARNING"
  | info => "INFO"
  | debug => "DEBUG"
  | notset => "NOTSET"

def rank : LogLevel → Nat
  | critical => 50
  | fatal => 50
  | error => 40
  | warn => 30
  | warning => 30
  | info => 20
  | debug => 10
  | notset => 0

def ofName? (s : String) : Option LogLevel := all.find? fun l => l.name == s

theorem ofName?_name (l : LogLevel) : ofName? l.name = some l := by cases l <;> decide

end LogLevel
end FilmIndex
