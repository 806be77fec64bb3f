/-!
The fields of a collection. A film is stored by its id, its release year and
its embedding; titles are not stored.
-/

namespace FilmIndex

inductive DataType where
  | none
  | bool
  | int8
  | int16
  | int32
  | int64
  | float
  | double
  | string
  | varchar
  | array
  | json
  | binaryVector
  | floatVector
  | float16Vector
  | bfloat16Vector
  | sparseFloatVector
  | int8Vector
  | unknown
  deriving DecidableEq

namespace DataType

def all : List DataType :=
  [none, bool, int8, int16, int32, int64, float, double, string, varchar, array, json,
    binaryVector, floatVector, float16Vector, bfloat16Vector, sparseFloatVector, int8Vector,
    unknown]

def name : DataType → String
  | none => "NONE"
  | bool => "BOOL"
  | int8 => "INT8"
  | int16 => "INT16"
  | int32 => "INT32"
  | int64 => "INT64"
  | float => "FLOAT"
  | double => "DOUBLE"
  | string => "STRING"
  | varchar => "VARCHAR"
  | array => "ARRAY"
  | json => "JSON"
  | binaryVector => "BINARY_VECTOR"
  | floatVector => "FLOAT_VECTOR"
  | float16Vector => "FLOAT16_VECTOR"
  | bfloat16Vector => "BFLOAT16_VECTOR"
  | sparseFloatVector => "SPARSE_FLOAT_VECTOR"
  | int8Vector => "INT8_VECTOR"
  | unknown => "UNKNOWN"

def ofName? (s : String) : Option DataType := all.find? fun t => t.name == s

end DataType

structure ScalarField where
  name : String
  dataType : DataType := .int64
  isPrimary : Bool := false
  deriving DecidableEq

structure VectorField where
  name : String
  dim : Int
  deriving DecidableEq

/-- A field as the server is told of it. Only vector fields have a dimension;
no id is made by the server. -/
structure FieldSchema where
  name : String
  dataType : DataType
  isPrimary : Bool := false
  autoId : Bool := false
  description : String := ""
  dim? : Option Int := none
  deriving DecidableEq

def ScalarField.schema (f : ScalarField) : FieldSchema :=
  { name := f.name, dataType := f.dataType, isPrimary := f.isPrimary }

def VectorField.schema (f : VectorField) : FieldSchema :=
  { name := f.name, dataType := .floatVector, dim? := some f.dim }

structure CollectionSchema where
  description : String
  fields : List FieldSchema
  autoId : Bool := false
  deriving DecidableEq

def CollectionSchema.primary? (s : CollectionSchema) : Option String :=
  (s.fields.find? (·.isPrimary)).map (·.name)

/-- The schema of films whose embeddings have the given dimension. -/
structure FilmSchema where
  dim : Int
  deriving DecidableEq

namespace FilmSchema

def id : ScalarField := { name := "id", isPrimary := true }
def releaseYear : ScalarField := { name := "release_year", dataType := .int32 }
def embedding (s : FilmSchema) : VectorField := ⟨"embedding", s.dim⟩

def defaultDescription : String := "Films with fake embeddings"

def collection (s : FilmSchema) (description : String) : CollectionSchema :=
  { description, fields := [id.schema, releaseYear.schema, s.embedding.schema] }

end FilmSchema
end FilmIndex
