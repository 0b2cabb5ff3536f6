import Xpra.Util.Digits
import Xpra.Net.Websockets.Struct
import Xpra.Net.Websockets.Header
import Xpra.Net.Websockets.RoundTrip
import Xpra.Net.SubprocessWrapper.Callee
import Xpra.Net.SubprocessWrapper.Caller
import Xpra.Net.SubprocessWrapper.Bridge
import Xpra.Net.SubprocessWrapper.Channel
import Xpra.Net.SubprocessWrapper.Shutdown
import Xpra.Net.SubprocessWrapper.Session
import Xpra.Net.Protocol.WriteLoop
import Xpra.Net.Mdns.AvahiPublisher
import Xpra.Client.Tk.Client
import Xpra.Client.Tk.Packets
import Xpra.Notifications.NotifierBase
import Xpra.Server.Window.Filters
import Xpra.Gtk.Dialogs.U2fTool
import Xpra.Gtk.Dialogs.QrcodeClient
import Xpra.Platform.Win32.Common
import Xpra.X11.Desktop.DesktopModel
