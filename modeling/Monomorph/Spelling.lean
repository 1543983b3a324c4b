import Monomorph.ConcreteType

/-!
How a type is spelled in the generated sources: as the parameter of a specialisation, as the types
that the aliases of the body stand for, as a run-time tag, and in a typing stub.
-/

namespace Monomorph

/-- The host scalar with these elements. -/
def Element.scalar : Element → String
  | float32 => "float" | float64 => "double"
  | int32 => "std::int32_t" | int64 => "std::int64_t"

/-- The storage order of a sparse matrix with this layout. -/
def Layout.order : Layout → String
  | csr => "Eigen::RowMajor" | csc => "Eigen::ColMajor"

namespace ConcreteType

/-- The scalar type. -/
def scalar : ConcreteType → String
  | dense e => e.scalar
  | sparse e _ => e.scalar
  | host text => text

/-- The formal parameter of a specialisation: a view that borrows the caller's buffers. -/
def parameter : ConcreteType → String
  | dense e => "npe::dense_view<" ++ e.scalar ++ ">"
  | sparse e l => "npe::sparse_view<" ++ e.scalar ++ ", " ++ l.order ++ ">"
  | host text => text

/-- The matrix type that owns its elements. -/
def matrix : ConcreteType → String
  | dense e => "Eigen::Matrix<" ++ e.scalar ++ ", Eigen::Dynamic, Eigen::Dynamic, Eigen::RowMajor>"
  | sparse e l => "Eigen::SparseMatrix<" ++ e.scalar ++ ", " ++ l.order ++ ">"
  | host text => text

/-- The run-time tag that a dispatcher tests for; a host type has none. -/
def runtimeTag? : ConcreteType → Option String
  | host _ => none
  | t => some ("npe::type_tag::" ++ t.tag)

/-- The words for common host types in a typing stub. -/
def stubHosts : List (String × String) := [
  ("std::string", "str"), ("const std::string&", "str"), ("const std::string &", "str"),
  ("bool", "bool"), ("int", "int"), ("long", "int"), ("std::int32_t", "int"),
  ("std::int64_t", "int"), ("size_t", "int"), ("std::size_t", "int"), ("float", "float"),
  ("double", "float")]

/-- The type in a typing stub. -/
def stub : ConcreteType → String
  | dense _ => "numpy.ndarray"
  | sparse _ l => "scipy.sparse." ++ l.name ++ "_matrix"
  | host text => (stubHosts.lookup text).getD "Any"

end ConcreteType

end Monomorph
