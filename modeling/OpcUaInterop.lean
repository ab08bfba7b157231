import OpcUaInterop.Open62541.History
import OpcUaInterop.Open62541.PubSubNumbers
import OpcUaInterop.Open62541.PubSubRoundTrip
import OpcUaInterop.GoOpcua.PubSubCarried
import OpcUaInterop.Adapters.MatrixDimensions
import OpcUaInterop.Open62541.HistoryRead
import OpcUaInterop.DotNet.UadpDescriptions
import OpcUaInterop.Open62541.PubSubEnabled
import OpcUaInterop.Adapters.QueryData
import OpcUaInterop.Adapters.QueryPaging
import OpcUaInterop.Adapters.Int64Literals
import OpcUaInterop.Adapters.PushAgreement
import OpcUaInterop.Adapters.GdsPullNames
import OpcUaInterop.GoOpcua.AlarmRefresh
import OpcUaInterop.Open62541.AlarmStore
import OpcUaInterop.Open62541.EventPages
import OpcUaInterop.Open62541.HistoryTable
import OpcUaInterop.Open62541.PubSubBackoff
import OpcUaInterop.Open62541.NormalizeJson
import OpcUaInterop.Adapters.TrustListClose
import OpcUaInterop.Open62541.NodeIdEncoding
import OpcUaInterop.Open62541.Base64Text
import OpcUaInterop.Open62541.NodeIdLiterals
import OpcUaInterop.Open62541.DateLiterals
import OpcUaInterop.Open62541.PrintedStrings
import OpcUaInterop.GoOpcua.CodecFlags
import OpcUaInterop.GoOpcua.MatrixOutput
import OpcUaInterop.Open62541.VariantBuffer
import OpcUaInterop.Open62541.GroupMessages
import OpcUaInterop.Adapters.AddedNodes
import OpcUaInterop.Scripts.Results
import OpcUaInterop.GoOpcua.Namespaces
import OpcUaInterop.GoOpcua.Matrix
import OpcUaInterop.GoOpcua.PubSubDiscover
import OpcUaInterop.GoOpcua.UnicastAddress
