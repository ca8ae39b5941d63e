import CkpoolGenerator.Jansson
import CkpoolGenerator.Instance
import CkpoolGenerator.Codec
import CkpoolGenerator.Subscribe
import CkpoolGenerator.Notify
import CkpoolGenerator.Method
import CkpoolGenerator.Share
import CkpoolGenerator.Reconnect
import CkpoolGenerator.Threads
import CkpoolGenerator.Cache
import CkpoolGenerator.Submit
import CkpoolGenerator.Session
import CkpoolGenerator.Control
import CkpoolGenerator.Server
import CkpoolGenerator.Startup
import CkpoolGenerator.Relay
import CkpoolGenerator.ReconnectRun
