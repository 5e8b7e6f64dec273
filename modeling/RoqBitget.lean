import RoqBitget.Gateway.ActionRuns
import RoqBitget.Gateway.Authentication
import RoqBitget.Gateway.Bookkeeping
import RoqBitget.Gateway.Books
import RoqBitget.Gateway.Commissions
import RoqBitget.Gateway.Delivery
import RoqBitget.Gateway.DownloadOrder
import RoqBitget.Gateway.Funds
import RoqBitget.Gateway.Heartbeat
import RoqBitget.Gateway.LostOrders
import RoqBitget.Gateway.OrderDetails
import RoqBitget.Gateway.Outdated
import RoqBitget.Gateway.Pages
import RoqBitget.Gateway.Positions
import RoqBitget.Gateway.PrivateStreams
import RoqBitget.Gateway.PublicStreams
import RoqBitget.Gateway.PublicTexts
import RoqBitget.Gateway.Ready
import RoqBitget.Gateway.RequestIds
import RoqBitget.Gateway.Routing
import RoqBitget.Gateway.SentTexts
import RoqBitget.Gateway.StaleOrders
import RoqBitget.Gateway.Subscriptions
import RoqBitget.Gateway.Waiting
import RoqBitget.Gateway.WebsocketActions
import RoqBitget.Protocol.OrderTerms
import RoqBitget.Tools.Throttle
