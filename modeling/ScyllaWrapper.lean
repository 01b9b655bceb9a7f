import ScyllaWrapper.Types
import ScyllaWrapper.RawValue
import ScyllaWrapper.RawRow
import ScyllaWrapper.QueryResult
import ScyllaWrapper.ColumnByName
import ScyllaWrapper.ValueGetters
import ScyllaWrapper.Cursor
import ScyllaWrapper.StreamCursors
import ScyllaWrapper.Metadata
import ScyllaWrapper.LegacyValue
import ScyllaWrapper.IteratorEngine
import ScyllaWrapper.IteratorRuns
import ScyllaWrapper.ResultRows
