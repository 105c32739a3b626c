import StagedLoad.Calendar
import StagedLoad.Column
import StagedLoad.Config.Failure
import StagedLoad.Config.FileTree
import StagedLoad.Config.Load
import StagedLoad.Config.Variable
import StagedLoad.Database.Driver
import StagedLoad.Database.Script
import StagedLoad.Database.Session
import StagedLoad.Endpoint
import StagedLoad.Failure
import StagedLoad.Json.Decode
import StagedLoad.Json.Encode
import StagedLoad.Log.Journal
import StagedLoad.Log.Level
import StagedLoad.Number.Binary64
import StagedLoad.Number.Shortest
import StagedLoad.Product
import StagedLoad.Proofs.AccountFile
import StagedLoad.Proofs.AutoCommit
import StagedLoad.Proofs.ColumnOrder
import StagedLoad.Proofs.Commit
import StagedLoad.Proofs.ConnectionString
import StagedLoad.Proofs.Contract
import StagedLoad.Proofs.Cursor
import StagedLoad.Proofs.Definition
import StagedLoad.Proofs.Delimited
import StagedLoad.Proofs.Dialogue
import StagedLoad.Proofs.DistinctKeys
import StagedLoad.Proofs.Durability
import StagedLoad.Proofs.EngineAddress
import StagedLoad.Proofs.Fault
import StagedLoad.Proofs.KeyForm
import StagedLoad.Proofs.LoadFailure
import StagedLoad.Proofs.LoadReport
import StagedLoad.Proofs.LogData
import StagedLoad.Proofs.LogLine
import StagedLoad.Proofs.Merge
import StagedLoad.Proofs.MergeLaws
import StagedLoad.Proofs.Mode
import StagedLoad.Proofs.NormalForm
import StagedLoad.Proofs.Plan
import StagedLoad.Proofs.Products
import StagedLoad.Proofs.Reading
import StagedLoad.Proofs.Redaction
import StagedLoad.Proofs.SecondImport
import StagedLoad.Proofs.SecretVariable
import StagedLoad.Proofs.SharedChannel
import StagedLoad.Proofs.Sheet.Data
import StagedLoad.Proofs.Sheet.Lines
import StagedLoad.Proofs.Sheet.Nodes
import StagedLoad.Proofs.Sheet.Place
import StagedLoad.Proofs.Sheet.Plain
import StagedLoad.Proofs.Sheet.Tokens
import StagedLoad.Proofs.SingleFile
import StagedLoad.Proofs.Source
import StagedLoad.Proofs.Substitution
import StagedLoad.Proofs.TableIdentity
import StagedLoad.Proofs.TableText
import StagedLoad.Proofs.TargetTable
import StagedLoad.Proofs.Task
import StagedLoad.Proofs.TypeLimits
import StagedLoad.Settings
import StagedLoad.Settings.Check
import StagedLoad.Settings.Checked
import StagedLoad.Settings.Integer
import StagedLoad.Sql.Collect
import StagedLoad.Sql.ColumnType
import StagedLoad.Sql.Definition
import StagedLoad.Table
import StagedLoad.Text
import StagedLoad.Text.Bytes
import StagedLoad.Text.Numeral
import StagedLoad.Text.Quoted
import StagedLoad.Text.Replace
import StagedLoad.Text.Split
import StagedLoad.Value
import StagedLoad.Value.Display
import StagedLoad.Value.Equality
import StagedLoad.Value.Knot
import StagedLoad.Value.Merge
import StagedLoad.Writer
import StagedLoad.Writer.Collect
import StagedLoad.Yaml.Build
import StagedLoad.Yaml.Cell
import StagedLoad.Yaml.Cursor
import StagedLoad.Yaml.Node
import StagedLoad.Yaml.Node.Graph
import StagedLoad.Yaml.Node.MergeKey
import StagedLoad.Yaml.Node.Resolve
import StagedLoad.Yaml.Scalar
import StagedLoad.Yaml.Timestamp
import StagedLoad.Yaml.Token
import StagedLoad.Yaml.Token.Block
import StagedLoad.Yaml.Token.Plain
import StagedLoad.Yaml.Token.Property
import StagedLoad.Yaml.Token.Quoted
import StagedLoad.Yaml.Token.Stream
