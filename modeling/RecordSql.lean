import RecordSql.Identity
import RecordSql.Insert.Growth
import RecordSql.Proofs.Failure
import RecordSql.Proofs.Growth
import RecordSql.Proofs.IndexNames
import RecordSql.Proofs.Insert.Encoding
import RecordSql.Proofs.Insert.Reading
import RecordSql.Proofs.Name.LetterCase
import RecordSql.Proofs.Name.Plural
import RecordSql.Proofs.Name.Respelling
import RecordSql.Proofs.References
import RecordSql.Proofs.Schema.Decode
import RecordSql.Proofs.Table.Concatenation
import RecordSql.Proofs.Table.DefaultModel
import RecordSql.Proofs.Table.JoinTable
import RecordSql.Schema.Declarations
import RecordSql.Proofs.Table.Query
import RecordSql.Proofs.Exchange
import RecordSql.Proofs.Name.Cut
import RecordSql.Proofs.Name.Family
